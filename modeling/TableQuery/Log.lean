/-
# Logging

A computation that logs is a value and the records sent on the way to it, in order. Nothing reads
a record back, so what a computation logs never changes what it returns.
-/

namespace TableQuery

/-- How much a record matters. -/
inductive LogLevel where
  /-- Something that was asked for is not there. -/
  | warn
  /-- The outcome of a stage of a query. -/
  | debug
  /-- The work of one operator. -/
  | trace
  deriving DecidableEq, Repr

/-- A line of the log. -/
structure LogRecord where
  level : LogLevel
  message : String
  deriving DecidableEq, Repr

/-- A value and the records sent before it was there. -/
structure Logged (α : Type) where
  value : α
  records : List LogRecord

namespace Logged

instance : Monad Logged where
  pure a := ⟨a, []⟩
  bind x f := ⟨(f x.value).value, x.records ++ (f x.value).records⟩

instance : LawfulMonad Logged := LawfulMonad.mk' Logged
  (fun x => by simp [Functor.map])
  (fun a f => by simp [Bind.bind, Pure.pure])
  (fun x f g => by simp [Bind.bind, List.append_assoc])

/-- Sends one record. -/
def send (level : LogLevel) (message : String) : Logged Unit := ⟨(), [⟨level, message⟩]⟩

variable {α β : Type}

@[simp] theorem value_pure (a : α) : (pure a : Logged α).value = a := rfl
@[simp] theorem records_pure (a : α) : (pure a : Logged α).records = [] := rfl

@[simp] theorem value_bind (x : Logged α) (f : α → Logged β) :
    (x >>= f).value = (f x.value).value := rfl

@[simp] theorem records_bind (x : Logged α) (f : α → Logged β) :
    (x >>= f).records = x.records ++ (f x.value).records := rfl

@[simp] theorem value_map (g : α → β) (x : Logged α) : (g <$> x).value = g x.value := rfl

@[simp] theorem records_map (g : α → β) (x : Logged α) : (g <$> x).records = x.records :=
  List.append_nil _

@[simp] theorem records_send (level : LogLevel) (message : String) :
    (send level message).records = [⟨level, message⟩] := rfl

end Logged
end TableQuery
