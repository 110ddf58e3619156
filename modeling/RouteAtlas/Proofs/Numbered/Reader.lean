import RouteAtlas.Proofs.Code.Reader
import RouteAtlas.Proofs.Numbered.Annotations
import RouteAtlas.Proofs.Numbered.Texts

namespace RouteAtlas.Numbered

/-- What a reader of lines by their numbers makes of a line of code, and then of the braces on this line. -/
structure Reader (σ : Type) where
  code : σ → Text → Nat → Checked σ
  braces : σ → Text → Checked σ

namespace Reader

variable {σ : Type} {checked : Reader σ} {reader : LineReader σ} {lines : List Text} {place : Place}
  {state : σ} {depth : σ → Int}

def readLine (reader : Reader σ) (state : σ) : Text × Nat → Checked σ
  | (line, number) =>
    if isCommentOrBlank (Text.trim line) then return state
    else do
      let state ← reader.code state line number
      reader.braces state line

def annotated (lines : List Text) (site : Nat → σ → Annotation → Checked σ)
    (declare braces : σ → Text → Checked σ) : Reader σ where
  code state line number := do
    let sites ← annotationsAt lines number
    let state ← sites.foldlM (site number) state
    declare state (Text.trim line)
  braces := braces

/-- By the numbers of the lines all is read as in the lines themselves, as long as the braces of a line can
be added to the depth that the state carries. -/
structure Follows (checked : Reader σ) (reader : LineReader σ) (lines : List Text) (depth : σ → Int) :
    Prop where
  code : ∀ place ∈ Place.all lines, ∀ state,
    checked.code state place.line place.number = .ok (reader.code state place)
  braces : ∀ state line, (depth state).natAbs + braceCount line < 2 ^ 31 →
    checked.braces state line = .ok (reader.braces state line)
  depth_code : ∀ state place, depth (reader.code state place) = depth state
  depth_braces : ∀ state line, depth (reader.braces state line) = depth state + braceBalance line

namespace Follows

variable (follows : checked.Follows reader lines depth)
include follows

theorem readLine_eq (member : place ∈ Place.all lines)
    (few : (depth state).natAbs + braceCount place.line < 2 ^ 31) :
    checked.readLine state (place.line, place.number) = .ok (reader.readLine state place) := by
  unfold readLine LineReader.readLine
  dsimp only
  split
  · rfl
  · rw [← follows.depth_code state place] at few
    rw [follows.code place member, ok_bind, follows.braces _ _ few]

theorem natAbs_depth_readLine (place : Place) (state : σ) :
    (depth (reader.readLine state place)).natAbs ≤ (depth state).natAbs + braceCount place.line := by
  have moved := natAbs_braceBalance_le place.line
  unfold LineReader.readLine
  split
  · exact Nat.le_add_right _ _
  · rw [follows.depth_braces, follows.depth_code]
    omega

end Follows

theorem Follows.foldlM_eq {content : Text} {initial : σ}
    (follows : checked.Follows reader (Text.lines content) depth) (start : depth initial = 0)
    (few : braceCount content < 2 ^ 31) :
    (Text.lines content).zipIdx.foldlM checked.readLine initial =
      .ok ((Place.all (Text.lines content)).foldl reader.readLine initial) :=
  foldlM_lines depth (fun _ member _ enough => follows.readLine_eq member enough)
    follows.natAbs_depth_readLine start few

/-- Neither annotations nor declarations move the depth, so only the braces need room. -/
theorem follows_annotated {checkedSite : Nat → σ → Annotation → Checked σ}
    {checkedDeclare checkedBraces : σ → Text → Checked σ} {site : Place → σ → AnnotationSite → σ}
    {declare braces : σ → Text → σ}
    (sites : ∀ place ∈ Place.all lines, ∀ found, place.number + found.span < lines.length → ∀ state,
      checkedSite place.number state (located place.number found) = .ok (site place state found))
    (declared : ∀ state trimmed, checkedDeclare state trimmed = .ok (declare state trimmed))
    (closed : ∀ state line, (depth state).natAbs + braceCount line < 2 ^ 31 →
      checkedBraces state line = .ok (braces state line))
    (depth_site : ∀ place state found, depth (site place state found) = depth state)
    (depth_declare : ∀ state trimmed, depth (declare state trimmed) = depth state)
    (depth_braces : ∀ state line, depth (braces state line) = depth state + braceBalance line) :
    (annotated lines checkedSite checkedDeclare checkedBraces).Follows
      (.annotated site declare braces) lines depth where
  code place member state := by
    dsimp only [annotated, LineReader.annotated]
    rw [annotationsAt_eq member, ok_bind, foldlM_located member (sites place member), ok_bind, declared]
  braces := closed
  depth_code state place := by
    dsimp only [LineReader.annotated]
    rw [depth_declare, foldl_keeps depth (depth_site place)]
  depth_braces := depth_braces

end Reader

end RouteAtlas.Numbered
