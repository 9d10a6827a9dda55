/-!
# Calls of collaborators

The atlas, the traveller and the store of the configuration are given from
outside. A call to one of them replies, or it crashes and leaves no result.
-/

namespace Astrogation

/-- How a call of a collaborator ends. -/
inductive Call (α : Type) where
  | reply (value : α)
  | crash

namespace Call

variable {α β : Type}

/-- A call which goes on with the reply of another. -/
def bind : Call α → (α → Call β) → Call β
  | reply value, next => next value
  | crash, _ => crash

instance : Monad Call where
  pure := reply
  bind := bind

/-- Whether a call replies. -/
def Replies (call : Call α) : Prop := ∃ value, call = reply value

/-- The replies to calls for each item of a list, absent ones skipped. -/
def gather (call : α → Call (Option β)) : List α → Call (List β)
  | [] => reply []
  | item :: items =>
    (call item).bind fun found => (gather call items).bind fun rest => reply (found.toList ++ rest)

@[simp]
theorem bind_reply (value : α) (next : α → Call β) : (reply value).bind next = next value := rfl

@[simp]
theorem bind_crash (next : α → Call β) : crash.bind next = crash := rfl

theorem gather_reply (f : α → Option β) (items : List α) :
    gather (fun item => reply (f item)) items = reply (items.filterMap f) := by
  induction items with
  | nil => rfl
  | cons item items ih => cases h : f item <;> simp [gather, ih, h]

end Call

end Astrogation
