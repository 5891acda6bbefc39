namespace TypedTree

/-! # Programs over requests

Constructors, hooks and rules are supplied by the user of the library. Each is a
`Program`: it answers, fails, or makes a request and goes on with the answer.
A program can touch trees and engines only through its requests, so a statement
about every program is a statement about everything a user can supply.
-/

inductive Program (Q : Type) (Answer : Q → Type) (ε : Type) (α : Type) where
  | done (result : α)
  | fail (error : ε)
  | ask (request : Q) (next : Answer request → Program Q Answer ε α)

namespace Program

variable {Q : Type} {Answer : Q → Type} {ε α β : Type}

def bind : Program Q Answer ε α → (α → Program Q Answer ε β) → Program Q Answer ε β
  | .done result, next => next result
  | .fail error, _ => .fail error
  | .ask request following, next => .ask request fun answer => (following answer).bind next

instance : Monad (Program Q Answer ε) where
  pure := .done
  bind := .bind

def request (question : Q) : Program Q Answer ε (Answer question) :=
  .ask question .done

def ofExcept : Except ε α → Program Q Answer ε α
  | .ok result => .done result
  | .error error => .fail error

/-- Runs a program where every request is answered by `respond`. -/
def run {m : Type → Type} [Monad m] (respond : (question : Q) → m (Answer question)) :
    Program Q Answer ε α → m (Except ε α)
  | .done result => pure (.ok result)
  | .fail error => pure (.error error)
  | .ask question next => do
      let answer ← respond question
      (next answer).run respond

@[simp]
theorem done_bind (result : α) (next : α → Program Q Answer ε β) :
    (Program.done result : Program Q Answer ε α) >>= next = next result := rfl

@[simp]
theorem fail_bind (error : ε) (next : α → Program Q Answer ε β) :
    (Program.fail error : Program Q Answer ε α) >>= next = .fail error := rfl

@[simp]
theorem ask_bind (question : Q) (following : Answer question → Program Q Answer ε α)
    (next : α → Program Q Answer ε β) :
    Program.ask question following >>= next =
      .ask question fun answer => following answer >>= next := rfl

theorem bind_done (program : Program Q Answer ε α) : program >>= .done = program := by
  induction program with
  | done result => rfl
  | fail error => rfl
  | ask question next ih => simp [ih]

end Program

end TypedTree
