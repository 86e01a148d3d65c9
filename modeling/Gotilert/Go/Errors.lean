/-
**Go errors** as the delivery client builds and inspects them.

An `error` is a tree: `fmt.Errorf` with one or more `%w` verbs wraps its operands,
and `errors.Is` and `errors.As` walk the tree depth first, a node before the nodes it
wraps, the operands of a node in order. Neither function looks at anything else
about the shape, so both are searches over `GoError.nodes`, the tree in that order.

What a node is matters only through its dynamic type: a sentinel made by
`errors.New` (compared by identity), the client's `*statusError`, the four `x509`
verification errors and `tls.RecordHeaderError`, `*net.OpError`, some other
`net.Error`, and everything else. A `net.Error`'s `Timeout()` answer is part of the
node: for `*url.Error` and `*net.OpError` it is read from what they wrap, and the
model lets it be either answer for any node.

An error that a library returns (`encoding/json`, `net/http`, `net/url`, ...) is a
`ForeignError`: any tree, except that it holds none of this program's sentinels and
no `*statusError`, which no library can build.
-/
import Gotilert.Go.Strings

set_option autoImplicit false

namespace Gotilert.Go

/-- The sentinel errors this code compares against with `errors.Is`. -/
inductive Sentinel where
  | errDoRequest
  | errUpstreamNon2xx
  | errEncodeRequest
  | errCreateRequest
  | errReadResponseBody
  | errContextDone
  | errClientNil
  | errInvalidConfiguration
  | errBaseURLMissing
  | errNotReady
  | errMessageRequired
  | errInvalidPriority
  | errUnsupportedContentType
  | errMethodNotAllowed
  | errTokenMissingOrInvalid
  | errInternalMisconfigured
  | errUpstreamFailed
  /-- `context.Canceled`. -/
  | canceled
  /-- `context.DeadlineExceeded`, which is also a `net.Error` whose `Timeout()` is true. -/
  | deadlineExceeded
  deriving DecidableEq, Repr

/-- The dynamic type of one node of an error tree. -/
inductive ErrorKind where
  | sentinel (s : Sentinel)
  /-- The client's `*statusError`. -/
  | status (code : Int) (body : GoString)
  | unknownAuthority
  | hostname
  | certificateInvalid
  | systemRoots
  /-- `tls.RecordHeaderError`. -/
  | recordHeader
  /-- `*net.OpError`, a `net.Error`. -/
  | opError (timeout : Bool)
  /-- Any other `net.Error`: `*net.DNSError`, `*url.Error`, ... -/
  | netError (timeout : Bool)
  /-- `fmt.Errorf`'s wrappers, `errors.Join`, or any other wrapping type. -/
  | wrapper
  /-- Any other error. -/
  | other
  deriving DecidableEq, Repr

instance : Inhabited ErrorKind := ⟨.other⟩

/-- A Go `error`: a node and the errors it wraps, in order. -/
inductive GoError where
  | node (kind : ErrorKind) (wrapped : List GoError)
  deriving Repr

mutual
/-- The nodes of an error tree in the order `errors.Is` and `errors.As` visit them. -/
def GoError.nodes : GoError → List ErrorKind
  | .node k ws => k :: GoError.nodesList ws

/-- The nodes of several trees, one tree after another. -/
def GoError.nodesList : List GoError → List ErrorKind
  | [] => []
  | e :: es => e.nodes ++ GoError.nodesList es
end

/-- `errors.New`: a sentinel. -/
def GoError.ofSentinel (s : Sentinel) : GoError := .node (.sentinel s) []

/-- `fmt.Errorf` with one `%w`. -/
def GoError.wrap (e : GoError) : GoError := .node .wrapper [e]

/-- `fmt.Errorf("%w: %w", a, b)`. -/
def GoError.wrap2 (a b : GoError) : GoError := .node .wrapper [a, b]

/-- `errors.Is(err, target)` for a sentinel `target`. -/
def errorsIs (err : GoError) (target : Sentinel) : Bool := err.nodes.contains (.sentinel target)

/-- `errors.As(err, &target)`: the first node whose type is the target's, read through
`view`. -/
def errorsAs {α : Type} (err : GoError) (view : ErrorKind → Option α) : Option α :=
  err.nodes.findSome? view

/-- The target `*statusError`: its status code. -/
def ErrorKind.asStatusError : ErrorKind → Option Int
  | .status code _ => some code
  | _ => none

/-- The target `net.Error`: its `Timeout()` answer. -/
def ErrorKind.asNetError : ErrorKind → Option Bool
  | .opError t => some t
  | .netError t => some t
  | .sentinel .deadlineExceeded => some true
  | _ => none

/-- The target `*net.OpError`. -/
def ErrorKind.asOpError : ErrorKind → Option Unit
  | .opError _ => some ()
  | _ => none

@[simp] theorem GoError.nodes_node (k : ErrorKind) (ws : List GoError) :
    (GoError.node k ws).nodes = k :: GoError.nodesList ws := by
  rw [GoError.nodes]

@[simp] theorem GoError.nodesList_nil : GoError.nodesList [] = [] := by
  rw [GoError.nodesList]

@[simp] theorem GoError.nodesList_cons (e : GoError) (es : List GoError) :
    GoError.nodesList (e :: es) = e.nodes ++ GoError.nodesList es := by
  rw [GoError.nodesList]

@[simp] theorem nodes_wrap2 (a b : GoError) : (GoError.wrap2 a b).nodes = .wrapper :: (a.nodes ++ b.nodes) := by
  simp [GoError.wrap2]

@[simp] theorem nodes_ofSentinel (s : Sentinel) : (GoError.ofSentinel s).nodes = [.sentinel s] := by
  simp [GoError.ofSentinel]

/-! ## Errors from other packages -/

/-- A sentinel of this program, which no library it calls ever wraps. -/
def isOwnSentinel : Sentinel → Bool
  | .canceled | .deadlineExceeded => false
  | _ => true

/-- A node another package can put in an error: no `*statusError` and none of this
program's sentinels. -/
def isForeignNode : ErrorKind → Bool
  | .status _ _ => false
  | .sentinel s => !isOwnSentinel s
  | _ => true

/-- An error returned by a call into another package. -/
structure ForeignError where
  err : GoError
  foreign : ∀ k ∈ err.nodes, isForeignNode k = true

/-- An error of another package whose type this program never asks about:
`url.EscapeError`, `*http.MaxBytesError`, or an `errors.New` of `net/url` or `net/http`. -/
def ForeignError.other : ForeignError := ⟨.node .other [], by simp [isForeignNode]⟩

theorem ForeignError.statusError_none (e : ForeignError): errorsAs e.err ErrorKind.asStatusError = none := by
  simp only [errorsAs, List.findSome?_eq_none_iff]
  intro k hk
  have := e.foreign k hk
  cases k <;> simp_all [isForeignNode, ErrorKind.asStatusError]

theorem ForeignError.own_not_mem (e : ForeignError) {s : Sentinel} (hs : isOwnSentinel s = true) :
    ErrorKind.sentinel s ∉ e.err.nodes := fun h => by
  simpa [isForeignNode, hs] using e.foreign _ h

end Gotilert.Go
