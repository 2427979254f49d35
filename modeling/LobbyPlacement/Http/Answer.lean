import LobbyPlacement.Http.Target
import LobbyPlacement.Json.Value

/-!
# Answers

What a request is answered with, and the rules of all routes: a path without a route is not found,
a route has only its reading method, and asking for the head alone leaves out the body.
-/

namespace LobbyPlacement.Http

inductive Body
  | text (s : String)
  | json (v : Json)

def Body.render : Body → String
  | text s => s
  | json v => v.compact

structure Answer where
  status : Nat
  contentType : Option String
  body : Body
  allow : Option String

namespace Answer

def empty (status : Nat) : Answer := ⟨status, none, .text "", none⟩

def notFound : Answer := empty 404

def methodNotAllowed : Answer := { empty 405 with allow := some "GET,HEAD" }

def plain (status : Nat) (s : String) : Answer :=
  ⟨status, some "text/plain; charset=utf-8", .text s, none⟩

def json (status : Nat) (v : Json) : Answer := ⟨status, some "application/json", .json v, none⟩

def withoutBody (a : Answer) : Answer := { a with body := .text "" }

end Answer

/-- Methods as far as routes tell them apart. -/
inductive Method
  | get
  | head
  | other
deriving DecidableEq, Repr

def Method.ofText (s : String) : Method :=
  if s = "GET" then get else if s = "HEAD" then head else other

/-- The answer to a method on a route, given what reading it answers; `none` if it crashed. -/
def Method.answer {σ : Type} (m : Method) (s : σ) (read : σ → σ × Option Answer) :
    σ × Option Answer :=
  match m with
  | get => read s
  | head => let (s, a) := read s; (s, a.map Answer.withoutBody)
  | other => (s, some .methodNotAllowed)

end LobbyPlacement.Http
