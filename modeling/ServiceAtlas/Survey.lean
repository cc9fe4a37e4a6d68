/-
Surveys: readings of declarations that report notices on the way.

A survey either meets a malformed type and stops, or yields a value and the notices of all
its steps in order.
-/
import ServiceAtlas.Notice

namespace ServiceAtlas

/-- A value with the notices that led to it, or the malformed type that was met. -/
def Survey (α : Type) : Type :=
  Except TypeRef.Malformed (α × List Notice)

namespace Survey

variable {α β : Type}

/-- A value without notices. -/
def done (a : α) : Survey α :=
  .ok (a, [])

/-- Go on with the value, the notices of both steps being kept. -/
def andThen (s : Survey α) (f : α → Survey β) : Survey β :=
  match s with
  | .error e => .error e
  | .ok (a, before) =>
    match f a with
    | .error e => .error e
    | .ok (b, after) => .ok (b, before ++ after)

instance : Monad Survey where
  pure := done
  bind := andThen

/-- Report a notice. -/
def note (n : Notice) : Survey Unit :=
  .ok ((), [n])

/-- Report notices in order. -/
def noteAll (ns : List Notice) : Survey Unit :=
  .ok ((), ns)

/-- The reference to a written type. -/
def typeRef (t : WrittenType) : Survey TypeRef :=
  match TypeRef.ofWritten t with
  | .error e => .error e
  | .ok r => .ok (r, [])

/-- Survey the items of a list in order. -/
def each (f : α → Survey β) : List α → Survey (List β)
  | [] => done []
  | a :: as => andThen (f a) fun b => andThen (each f as) fun bs => done (b :: bs)

end Survey

end ServiceAtlas
