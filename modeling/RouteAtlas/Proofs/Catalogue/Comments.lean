import RouteAtlas.Extract.Echo
import RouteAtlas.Extract.JaxRs
import RouteAtlas.Proofs.Code.Insertion

namespace RouteAtlas

open Place

namespace Echo

variable {front back : List Text} {line : Text} {file : Path} {place twin : Place} {state : State}

/-- What has been read, when another line stands behind the first `count` lines. -/
def State.shift (count : Nat) (state : State) : State :=
  { state with endpoints := state.endpoints.map (Endpoint.shift count) }

end Echo

namespace JaxRs

variable {front back : List Text} {line : Text} {file : Path} {place twin : Place} {state : State}

def Pending.shift (count : Nat) (pending : Pending) : Pending :=
  ⟨pending.verb.map fun seen => (seen.1, shifted count seen.2),
    pending.path.map fun seen => (seen.1, shifted count seen.2)⟩

def State.shift (count : Nat) (state : State) : State :=
  { state with
    pending := state.pending.shift count
    endpoints := state.endpoints.map (Endpoint.shift count) }

@[simp] theorem Pending.shift_none (count : Nat) : Pending.none.shift count = .none := rfl

variable (remark : isCommentOrBlank (Text.trim line)) (closed : ¬ Call.OpenBehind followsAnnotation front)
include remark closed

end JaxRs

end RouteAtlas
