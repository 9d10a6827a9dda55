import Astrogation.Call
import Mathlib.Data.List.Basic

/-!
# Places in lists

What comes from outside is asked by calls, and what is inside is found at its place in a list.
Both may crash: a list has no member at a place which is out of range (`Call.member`), and there
is nothing to be replaced there (`Call.replace`).

A loop whose steps all reply is a loop without calls, on whatever its values stand for
(`Call.foldlM_reply`, `Call.mapM_reply`, `Call.findM?_reply`).
-/

namespace Astrogation.Call

variable {α β γ δ : Type}

instance : LawfulMonad Call :=
  .mk' Call (fun call => by cases call <;> rfl) (fun _ _ => rfl)
    (fun call _ _ => by cases call <;> rfl)

@[simp]
theorem reply_bind (value : α) (next : α → Call β) : reply value >>= next = next value := rfl

/-- The member of a list at a place; a crash if the place is out of range. -/
def member (xs : List α) (place : Nat) : Call α :=
  match xs[place]? with
  | some x => reply x
  | none => crash

/-- The list with another member at a place; a crash if the place is out of range. -/
def replace (xs : List α) (place : Nat) (x : α) : Call (List α) :=
  if place < xs.length then reply (xs.set place x) else crash

theorem member_eq_reply {xs : List α} {place : Nat} {x : α} (h : xs[place]? = some x) :
    member xs place = reply x := by
  rw [member, h]

theorem replace_eq_reply {xs : List α} {place : Nat} (h : place < xs.length) (x : α) :
    replace xs place x = reply (xs.set place x) :=
  if_pos h

/-- What comes of a place that may not be known, if there is the member at it that is to come. -/
theorem mapM_member {xs : List α} {place? : Option Nat} {x? : Option α}
    (h : Option.Rel (fun i x => xs[i]? = some x) place? x?) :
    place?.mapM (member xs) = reply x? := by
  cases h with
  | none => rfl
  | some found =>
    rw [Option.mapM_some, member_eq_reply found]
    rfl

/-- At the first place where something holds is the first member for which it holds. -/
theorem rel_findIdx? (xs : List α) (p : α → Bool) :
    Option.Rel (fun i x => xs[i]? = some x) (xs.findIdx? p) (xs.find? p) := by
  cases found : xs.findIdx? p with
  | none =>
    rw [List.find?_eq_none.2 fun x hx => by simp [List.findIdx?_eq_none_iff.1 found x hx]]
    exact .none
  | some i =>
    obtain ⟨inside, here, before⟩ := List.findIdx?_eq_some_iff_getElem.1 found
    have first : xs.find? p = some xs[i] :=
      List.find?_eq_some_iff_getElem.2 ⟨here, i, inside, rfl, fun j hj => by simp [before j hj]⟩
    rw [first]
    exact .some (List.getElem?_eq_getElem inside)

/-! ## Loops -/

/-- A loop over places, each step of which replies with what a step without calls makes of the
    values that they stand for. -/
theorem foldlM_reply (view : β → γ) (place : α → δ) {call : γ → δ → Call γ} {step : β → α → β}
    {xs : List α} (h : ∀ x ∈ xs, ∀ b, call (view b) (place x) = reply (view (step b x))) (b : β) :
    (xs.map place).foldlM call (view b) = reply (view (xs.foldl step b)) := by
  induction xs generalizing b with
  | nil => rfl
  | cons x xs ih =>
    rw [List.map_cons, List.foldlM_cons, h x List.mem_cons_self, reply_bind, List.foldl_cons]
    exact ih (fun y hy => h y (List.mem_cons_of_mem x hy)) _

theorem mapM_reply (place : α → δ) {call : δ → Call β} {f : α → β} {xs : List α}
    (h : ∀ x ∈ xs, call (place x) = reply (f x)) :
    (xs.map place).mapM call = reply (xs.map f) := by
  induction xs with
  | nil => rfl
  | cons x xs ih =>
    rw [List.map_cons, List.mapM_cons, h x List.mem_cons_self, reply_bind,
      ih fun y hy => h y (List.mem_cons_of_mem x hy)]
    rfl

theorem findM?_reply {δ : Type} (place : α → δ) {call : δ → Call Bool} {p : α → Bool} {xs : List α}
    (h : ∀ x ∈ xs, call (place x) = reply (p x)) :
    (xs.map place).findM? call = reply ((xs.find? p).map place) := by
  induction xs with
  | nil => rfl
  | cons x xs ih =>
    rw [List.map_cons, List.findM?, h x List.mem_cons_self, reply_bind, List.find?_cons]
    cases p x with
    | true => rfl
    | false => exact ih fun y hy => h y (List.mem_cons_of_mem x hy)

end Astrogation.Call
