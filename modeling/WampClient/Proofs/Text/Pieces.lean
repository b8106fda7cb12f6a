import WampClient.Text.Split

/-! # Texts cut and joined

Where a text is cut is settled by what stands before the cut: no separator does. Pieces without
separators are what their joined text is cut into.
-/

namespace WampClient.Text

variable {α : Type} {isSep : α → Bool} {sep c : α} {before behind piece cs ds : List α}
  {pieces : List (List α)}

def FreeOf (isSep : α → Bool) (cs : List α) : Prop :=
  ∀ c ∈ cs, isSep c = false

instance (isSep : α → Bool) (cs : List α) : Decidable (FreeOf isSep cs) :=
  inferInstanceAs (Decidable (∀ c ∈ cs, isSep c = false))

theorem freeOf_nil : FreeOf isSep [] :=
  List.forall_mem_nil _

theorem freeOf_cons : FreeOf isSep (c :: cs) ↔ isSep c = false ∧ FreeOf isSep cs :=
  List.forall_mem_cons

theorem freeOf_append : FreeOf isSep (cs ++ ds) ↔ FreeOf isSep cs ∧ FreeOf isSep ds :=
  List.forall_mem_append

theorem freeOf_reverse : FreeOf isSep cs.reverse ↔ FreeOf isSep cs := by
  simp only [FreeOf, List.mem_reverse]

theorem FreeOf.imp {other : α → Bool} (free : FreeOf isSep cs)
    (narrower : ∀ c, isSep c = false → other c = false) : FreeOf other cs :=
  fun c member => narrower c (free c member)

theorem forall_mem_of_all {p : α → Prop} [DecidablePred p] (all : cs.all (fun c => decide (p c)) = true) :
    ∀ c ∈ cs, p c :=
  fun c member => of_decide_eq_true (List.all_eq_true.mp all c member)

/-! ## Cutting once -/

theorem cut_free (free : FreeOf isSep cs) : cut isSep cs = (cs, none) := by
  induction cs with
  | nil => rfl
  | cons c cs ih =>
      obtain ⟨first, more⟩ := freeOf_cons.mp free
      simp only [cut, first, Bool.false_eq_true, if_false, ih more]

theorem cut_at (free : FreeOf isSep before) (separates : isSep c = true) (behind : List α) :
    cut isSep (before ++ c :: behind) = (before, some behind) := by
  induction before with
  | nil => simp only [List.nil_append, cut, separates, if_true]
  | cons d before ih =>
      obtain ⟨first, more⟩ := freeOf_cons.mp free
      simp only [List.cons_append, cut, first, Bool.false_eq_true, if_false, ih more]

theorem cut_cases (isSep : α → Bool) (cs : List α) : FreeOf isSep cs ∨
    ∃ before c behind, cs = before ++ c :: behind ∧ FreeOf isSep before ∧ isSep c = true := by
  induction cs with
  | nil => exact .inl freeOf_nil
  | cons c cs ih =>
      cases separates : isSep c with
      | true => exact .inr ⟨[], c, cs, rfl, freeOf_nil, separates⟩
      | false =>
          rcases ih with free | ⟨before, d, behind, rfl, free, last⟩
          · exact .inl (freeOf_cons.mpr ⟨separates, free⟩)
          · exact .inr ⟨c :: before, d, behind, rfl, freeOf_cons.mpr ⟨separates, free⟩, last⟩

theorem cutLast_free (free : FreeOf isSep cs) : cutLast isSep cs = (none, cs) := by
  rw [cutLast, cut_free (freeOf_reverse.mpr free)]

theorem cutLast_at (separates : isSep c = true) (free : FreeOf isSep behind) (before : List α) :
    cutLast isSep (before ++ c :: behind) = (some before, behind) := by
  rw [cutLast, List.reverse_append, List.reverse_cons, List.append_assoc, List.singleton_append,
    cut_at (freeOf_reverse.mpr free) separates]
  simp only [List.reverse_reverse]

theorem cutLast_cases (isSep : α → Bool) (cs : List α) : FreeOf isSep cs ∨
    ∃ before c behind, cs = before ++ c :: behind ∧ isSep c = true ∧ FreeOf isSep behind := by
  rcases cut_cases isSep cs.reverse with free | ⟨behind, c, before, split, free, separates⟩
  · exact .inl (freeOf_reverse.mp free)
  · refine .inr ⟨before.reverse, c, behind.reverse, ?_, separates, freeOf_reverse.mpr free⟩
    rw [← List.reverse_reverse cs, split]
    simp only [List.reverse_append, List.reverse_cons, List.append_assoc, List.singleton_append]

/-! ## Cutting everywhere -/

theorem splitBy_free (free : FreeOf isSep cs) : splitBy isSep cs = [cs] := by
  induction cs with
  | nil => rfl
  | cons c cs ih =>
      obtain ⟨first, more⟩ := freeOf_cons.mp free
      simp only [splitBy, first, Bool.false_eq_true, if_false, ih more]

theorem splitBy_at (free : FreeOf isSep piece) (separates : isSep c = true) (behind : List α) :
    splitBy isSep (piece ++ c :: behind) = piece :: splitBy isSep behind := by
  induction piece with
  | nil => simp only [List.nil_append, splitBy, separates, if_true]
  | cons d piece ih =>
      obtain ⟨first, more⟩ := freeOf_cons.mp free
      simp only [List.cons_append, splitBy, first, Bool.false_eq_true, if_false, ih more]

theorem joinWith_cons (sep : α) (piece next : List α) (pieces : List (List α)) :
    joinWith sep (piece :: next :: pieces) = piece ++ sep :: joinWith sep (next :: pieces) :=
  rfl

theorem splitBy_joinWith (separates : isSep sep = true) (some_piece : pieces ≠ [])
    (free : ∀ piece ∈ pieces, FreeOf isSep piece) : splitBy isSep (joinWith sep pieces) = pieces := by
  induction pieces with
  | nil => exact absurd rfl some_piece
  | cons piece pieces ih =>
      obtain ⟨first, more⟩ := List.forall_mem_cons.mp free
      cases pieces with
      | nil => exact splitBy_free first
      | cons next pieces =>
          rw [joinWith_cons, splitBy_at first separates, ih (List.cons_ne_nil _ _) more]

theorem mem_splitBy (member : piece ∈ splitBy isSep cs) : ∀ c ∈ piece, isSep c = false ∧ c ∈ cs := by
  induction cs generalizing piece with
  | nil =>
      cases List.mem_singleton.mp member
      exact List.forall_mem_nil _
  | cons d cs ih =>
      have deeper {piece : List α} (member : piece ∈ splitBy isSep cs) (c : α) (inPiece : c ∈ piece) :
          isSep c = false ∧ c ∈ d :: cs :=
        (ih member c inPiece).imp_right (List.mem_cons_of_mem d)
      rw [splitBy] at member
      split at member
      · rcases List.mem_cons.mp member with rfl | member
        · exact List.forall_mem_nil _
        · exact deeper member
      · rename_i plain
        have here : isSep d = false ∧ d ∈ d :: cs := ⟨Bool.eq_false_iff.mpr plain, List.mem_cons_self⟩
        split at member
        · rename_i front others split
          rcases List.mem_cons.mp member with rfl | member
          · intro c inPiece
            rcases List.mem_cons.mp inPiece with rfl | inPiece
            · exact here
            · exact deeper (split ▸ List.mem_cons_self) c inPiece
          · exact deeper (split ▸ List.mem_cons_of_mem front member)
        · cases List.mem_singleton.mp member
          exact List.forall_mem_singleton.mpr here

theorem mem_joinWith (member : c ∈ joinWith sep pieces) : c = sep ∨ ∃ piece ∈ pieces, c ∈ piece := by
  induction pieces with
  | nil => cases member
  | cons piece pieces ih =>
      cases pieces with
      | nil => exact .inr ⟨piece, List.mem_cons_self, member⟩
      | cons next pieces =>
          rw [joinWith_cons] at member
          rcases List.mem_append.mp member with member | member
          · exact .inr ⟨piece, List.mem_cons_self, member⟩
          · rcases List.mem_cons.mp member with same | member
            · exact .inl same
            · exact (ih member).imp_right fun ⟨p, inPieces, inPiece⟩ =>
                ⟨p, List.mem_cons_of_mem piece inPieces, inPiece⟩

/-! ## The front of a text -/

/-- The rest of a text begins where an end stands, if it is not empty. -/
def BeginsWith (isEnd : α → Bool) (rest : List α) : Prop :=
  ∀ c ∈ rest.head?, isEnd c = true

theorem takeWhile_front {p : α → Bool} (front : ∀ c ∈ before, p c = true)
    (stops : BeginsWith (fun c => !p c) behind) : (before ++ behind).takeWhile p = before := by
  induction before with
  | nil =>
      cases behind with
      | nil => rfl
      | cons c behind =>
          have stop : p c = false := by simpa using stops c rfl
          simp [stop]
  | cons d before ih =>
      obtain ⟨first, more⟩ := List.forall_mem_cons.mp front
      rw [List.cons_append, List.takeWhile_cons_of_pos first, ih more]

theorem dropWhile_front {p : α → Bool} (front : ∀ c ∈ before, p c = true)
    (stops : BeginsWith (fun c => !p c) behind) : (before ++ behind).dropWhile p = behind := by
  have whole := List.takeWhile_append_dropWhile (p := p) (l := before ++ behind)
  rw [takeWhile_front front stops] at whole
  exact List.append_cancel_left whole

theorem dropWhile_begins (p : α → Bool) (cs : List α) :
    BeginsWith (fun c => !p c) (cs.dropWhile p) := by
  intro c first
  have stop := List.head?_dropWhile_not p cs
  rw [Option.mem_def.mp first] at stop
  simpa using stop

end WampClient.Text
