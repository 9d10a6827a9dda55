import Astrogation.Atlas.Table
import Astrogation.Fault

/-!
# Consultations

What a resolver does: it consults the atlas and the traveller, and comes to a
result or breaks down, because of a fault or because something crashed. The
inquiries it made are kept in their order, also when it breaks down after them.
-/

namespace Astrogation

/-- Why a consultation has no result. -/
inductive Breakdown where
  | fault (reason : Fault)
  | crash

/-- The result of consulting collaborators, and the inquiries that were made. -/
structure Consultation (α : Type) where
  outcome : Except Breakdown α
  inquiries : List Inquiry := []

namespace Consultation

variable {α β : Type}

/-- A result without any inquiry. -/
def result (value : α) : Consultation α := { outcome := .ok value }

/-- A consultation which goes on with the result of another. -/
def bind (c : Consultation α) (next : α → Consultation β) : Consultation β :=
  match c.outcome with
  | .ok value =>
    let d := next value
    ⟨d.outcome, c.inquiries ++ d.inquiries⟩
  | .error breakdown => ⟨.error breakdown, c.inquiries⟩

instance : Monad Consultation where
  pure := result
  bind := bind

/-- A consultation which ends with a fault. -/
def fail (reason : Fault) : Consultation α := { outcome := .error (.fault reason) }

/-- A consultation which crashes. -/
def crash : Consultation α := { outcome := .error .crash }

/-- The reply to a call. -/
def ofCall : Call α → Consultation α
  | .reply value => result value
  | .crash => crash

/-- The reply to an inquiry. -/
def inquire (inquiry : Inquiry) (call : Call α) : Consultation α :=
  { ofCall call with inquiries := [inquiry] }

@[simp]
theorem outcome_pure (value : α) : (pure value : Consultation α).outcome = .ok value := rfl

@[simp]
theorem outcome_ofCall_reply (value : α) : (ofCall (.reply value)).outcome = .ok value := rfl

@[simp]
theorem outcome_inquire_reply (inquiry : Inquiry) (value : α) :
    (inquire inquiry (.reply value)).outcome = .ok value := rfl

@[simp]
theorem outcome_bind (c : Consultation α) (next : α → Consultation β) :
    (c >>= next).outcome = c.outcome.bind fun value => (next value).outcome := by
  show (c.bind next).outcome = _
  unfold bind
  cases c.outcome <;> rfl

end Consultation

end Astrogation
