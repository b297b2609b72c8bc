/-!
# Transactions on a cold cache

A transaction evaluates its callback on the value of a node and proposes what
it returns.  A client without a cached value may evaluate it on the empty value
first: a callback that declines there ends the transaction, and a proposal is
compared with what the server has, which sends the callback to the server's
value unless that is empty too.
-/

namespace ColdCache

universe u

variable {Node : Type u}

/-- The value that a callback proposes, nothing where it declines. -/
abbrev Callback (Node : Type u) := Node → Option Node

def once (update : Callback Node) (server : Node) : Node :=
  (update server).getD server

/-- The callback is evaluated on the empty value first. -/
def cold (empty : Node) (isEmpty : Node → Bool) (update : Callback Node)
    (server : Node) : Node :=
  match update empty with
  | none => server
  | some proposed => if isEmpty server then proposed else once update server

variable {empty : Node} {isEmpty : Node → Bool} {update : Callback Node}
  {server : Node}

theorem cold_of_answers (exact : isEmpty server = true → server = empty)
    (answers : update empty ≠ none) :
    cold empty isEmpty update server = once update server := by
  unfold cold
  cases proposed : update empty with
  | none => exact absurd proposed answers
  | some value =>
    cases blank : isEmpty server with
    | false => rfl
    | true =>
      rw [exact blank]
      unfold once
      rw [proposed]
      rfl

theorem cold_of_declines (declines : update empty = none) :
    cold empty isEmpty update server = server := by
  unfold cold
  rw [declines]

theorem once_of_declines (declines : update server = none) :
    once update server = server := by
  unfold once
  rw [declines]
  rfl

end ColdCache
