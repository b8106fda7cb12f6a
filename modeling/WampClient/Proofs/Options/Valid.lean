import WampClient.Options.Basic

/-! # Which options are valid

Options are valid when the size is positive and each span of time is a positive, whole number of
milliseconds. How long a span is makes no difference.
-/

namespace WampClient.Options

variable {o : Options} {d : Duration} {field : String}

def spans (o : Options) : List Duration :=
  o.autoPingInterval.toList ++ [o.autoPingTimeout, o.closeTimeout]

theorem checkDuration_eq_ok_iff : checkDuration field d = .ok () ↔ d ≠ .zero ∧ d.IsWholeMillis := by
  unfold checkDuration
  split
  · rename_i empty
    simp [empty]
  · rename_i positive
    split
    · rename_i whole
      simp [positive, whole]
    · rename_i fractional
      simp [fractional]

theorem bind_eq_ok {α β : Type} {x : Except Error α} {f : α → Except Error β} {b : β} :
    (x >>= f) = .ok b ↔ ∃ a, x = .ok a ∧ f a = .ok b := by
  cases x <;> simp [bind, Except.bind]

theorem bind_eq_error {α β : Type} {x : Except Error α} {f : α → Except Error β} {e : Error} :
    (x >>= f) = .error e ↔ x = .error e ∨ ∃ a, x = .ok a ∧ f a = .error e := by
  cases x <;> simp [bind, Except.bind]

/-- Options are checked for their size and for each of their spans, and for nothing else. Later
    proofs go by this list of spans and not by the checks. -/
theorem validate_eq_ok_iff : o.validate = .ok () ↔
    o.maxFramePayloadSize ≠ 0 ∧ ∀ d ∈ o.spans, d ≠ .zero ∧ d.IsWholeMillis := by
  have passes (x : Except Error Unit) : (∃ u, x = .ok u) ↔ x = .ok () :=
    ⟨fun ⟨_, passed⟩ => passed, fun passed => ⟨(), passed⟩⟩
  by_cases empty : o.maxFramePayloadSize = 0
  · simp [validate, empty, bind, Except.bind, throw, throwThe, MonadExceptOf.throw]
  · cases interval : o.autoPingInterval with
    | none => simp [validate, empty, interval, spans, bind_eq_ok, passes, checkDuration_eq_ok_iff]
    | some d => simp [validate, empty, interval, spans, bind_eq_ok, passes, checkDuration_eq_ok_iff]

theorem validate_with (valid : o.validate = .ok ()) (positive : d ≠ .zero) (whole : d.IsWholeMillis) :
    (o.withAutoPingInterval d).validate = .ok () ∧ (o.withAutoPingTimeout d).validate = .ok () ∧
      (o.withCloseTimeout d).validate = .ok () := by
  obtain ⟨sized, checked⟩ := validate_eq_ok_iff.mp valid
  simp only [validate_eq_ok_iff]
  refine ⟨⟨sized, ?_⟩, ⟨sized, ?_⟩, sized, ?_⟩ <;>
    grind [spans, withAutoPingInterval, withAutoPingTimeout, withCloseTimeout]

end WampClient.Options
