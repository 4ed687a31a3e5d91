import CaseFill.Host.Call

/-! Dialogues. A computation that needs the editor is a tree of calls and of
what follows on each answer, so that it can be run against a connected editor,
against a scripted one, or reasoned about for every editor at once. Main
statement: dialogues form a lawful monad. -/
namespace CaseFill

/-- A computation that calls the editor on its way to a result. -/
inductive Dialogue (α : Type) where
  | done (result : α)
  | ask (call : Call) (next : Except HostError call.Answer → Dialogue α)

namespace Dialogue

def bind {α β : Type} : Dialogue α → (α → Dialogue β) → Dialogue β
  | done a, f => f a
  | ask call next, f => ask call fun answer => bind (next answer) f

instance : Monad Dialogue where
  pure := done
  bind := bind

@[simp] theorem pure_eq_done {α : Type} (a : α) : (pure a : Dialogue α) = done a := rfl

@[simp] theorem done_bind {α β : Type} (a : α) (f : α → Dialogue β) : done a >>= f = f a := rfl

@[simp] theorem ask_bind {α β : Type} (call : Call)
    (next : Except HostError call.Answer → Dialogue α) (f : α → Dialogue β) :
    ask call next >>= f = ask call fun answer => next answer >>= f := rfl

theorem bind_done {α : Type} (d : Dialogue α) : d >>= done = d := by
  induction d with
  | done a => rfl
  | ask call next ih => simpa using funext ih

theorem bind_assoc {α β γ : Type} (d : Dialogue α) (f : α → Dialogue β) (g : β → Dialogue γ) :
    d >>= f >>= g = d >>= fun a => f a >>= g := by
  induction d with
  | done a => rfl
  | ask call next ih => simpa using funext ih

instance : LawfulMonad Dialogue :=
  LawfulMonad.mk' Dialogue bind_done (fun _ _ => rfl) bind_assoc

def attempt (call : Call) : Dialogue (Except HostError call.Answer) := ask call done

def run {m : Type → Type} [Monad m] {α : Type}
    (host : (call : Call) → m (Except HostError call.Answer)) : Dialogue α → m α
  | done a => pure a
  | ask call next => do run host (next (← host call))

end Dialogue

/-- A dialogue that ends at the first failure. -/
abbrev Inquiry := ExceptT HostError Dialogue

namespace Inquiry

def query (call : Call) : Inquiry call.Answer := ExceptT.mk (Dialogue.attempt call)

end Inquiry
end CaseFill
