import WampClient.Client
import WampClient.Transport.History

/-! # Histories of clients

The history of a client holds that of its transport, and what each of its sockets did.
-/

namespace WampClient.Client

/-- What has happened, oldest first. `H` is the type of handlers. -/
abbrev History (H : Type) := List (Note H)

namespace History

variable {H : Type}

def transport (history : History H) : Transport.History H :=
  history.filterMap fun
    | .transport note => some note
    | _ => none

def outputs (history : History H) (n : Nat) : List Socket.Output :=
  history.flatMap fun
    | .socket m _ outputs | .started m outputs => if m = n then outputs else []
    | .transport _ => []

theorem transport_append (a b : History H) : transport (a ++ b) = transport a ++ transport b :=
  List.filterMap_append

theorem outputs_append (a b : History H) (n : Nat) :
    outputs (a ++ b) n = outputs a n ++ outputs b n :=
  List.flatMap_append

theorem transport_map (notes : Transport.History H) :
    transport (notes.map .transport) = notes := by
  rw [transport, List.filterMap_map]
  exact List.filterMap_some

theorem outputs_map (notes : Transport.History H) (n : Nat) :
    outputs (notes.map .transport) n = [] := by
  simp [outputs, List.flatMap_map]

end History

end WampClient.Client
