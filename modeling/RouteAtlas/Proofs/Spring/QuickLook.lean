import RouteAtlas.Catalogue
import RouteAtlas.Proofs.Code.ArgumentList
import RouteAtlas.Proofs.Spring.Handlers
import RouteAtlas.Proofs.Spring.Locality
import RouteAtlas.Proofs.Text.Pieces

namespace RouteAtlas.Spring

def IsStereotype (name : Text) : Prop := name = "Controller".toList ∨ name = "RestController".toList

/-- An annotation with this name, as it is written, starts on the line. -/
def NamedOn (line qualified : Text) : Prop :=
  ∃ text after, text <:+ line ∧ annotatedName? text = some (qualified, after)

section Marks

variable {lines : List Text} {line content qualified : Text} {file : Path} {state : State} {place : Place}

theorem NamedOn.isInfix (named : NamedOn line qualified) : '@' :: qualified <:+: line := by
  obtain ⟨text, after, suffix, read⟩ := named
  obtain ⟨spelled, _⟩ := parts_of_annotatedName? read
  exact List.IsInfix.trans ⟨[], after, spelled.symm⟩ suffix.isInfix

theorem contains_of_line {needle : Text} (member : line ∈ Text.lines content) (inside : needle <:+: line) :
    Text.contains content needle = true := by
  obtain ⟨front, back, rfl, _⟩ := Text.exists_of_mem_lines member
  obtain ⟨left, right, rfl⟩ := inside
  have found := Text.contains_append (front ++ left) needle (right ++ back)
  simpa using found

theorem claims_of_namedOn (member : line ∈ Text.lines content) (named : NamedOn line qualified)
    (stereotype : IsStereotype (Text.afterLast '.' qualified)) (bare : '.' ∉ qualified) :
    claims content = true := by
  rw [Text.afterLast_eq_self bare] at stereotype
  have found := contains_of_line member named.isInfix
  rcases stereotype with rfl | rfl
  · have seen : Text.contains content "@Controller" = true := found
    rw [claims, seen, Bool.true_or, Bool.true_or]
  · have seen : Text.contains content "@RestController" = true := found
    rw [claims, seen, Bool.or_true, Bool.true_or]

theorem exists_namedOn_of_mark (mark : IsControllerMark place) :
    ∃ qualified, NamedOn place.line qualified ∧ IsStereotype (Text.afterLast '.' qualified) := by
  obtain ⟨_, site, written, stereotype⟩ := mark
  obtain ⟨after, text, qualified, suffix, named, rfl⟩ := exists_writtenOn_of_mem written
  refine ⟨qualified, ⟨text, after, suffix, named⟩, ?_⟩
  unfold annotationAt at stereotype
  split at stereotype <;> exact stereotype

theorem exists_mark_of_extract (filled : extract file content ≠ []) :
    ∃ place ∈ Place.all (Text.lines content), IsControllerMark place := by
  obtain ⟨endpoint, member⟩ := List.exists_mem_of_ne_nil _ filled
  obtain ⟨_, _, _, _, _, place, present, mark, _⟩ :=
    (traced_extract file content).endpoints endpoint member
  exact ⟨place, present, mark⟩

end Marks

theorem select?_of_claims {content : Text} {path : Path} (java : path.extension? = some "java".toList)
    (claimed : claims content = true) :
    Catalogue.full.select? path content = some Framework.spring.extractorOf := by
  have extractors : Catalogue.full.extractors = Framework.spring.extractorOf ::
    [Framework.jaxRs, .gin, .echo, .fastApi, .flask].map (·.extractorOf) := rfl
  have first : (Framework.spring.extractorOf.extensions.contains "java".toList &&
      Framework.spring.extractorOf.claims content) = true :=
    Bool.and_eq_true_iff.mpr ⟨by decide, claimed⟩
  rw [Catalogue.select?, java, extractors, Option.bind_eq_bind, Option.bind_some,
    List.find?_cons_of_pos]
  exact first

/-- A file with endpoints has a controller annotation, and one that is written without its package is
enough for the file to be claimed and selected. -/
theorem claims_or_qualified {file : Path} {content : Text} (filled : extract file content ≠ []) :
    (∃ line ∈ Text.lines content, ∃ qualified,
      NamedOn line qualified ∧ IsStereotype (Text.afterLast '.' qualified)) ∧
    ((claims content = true ∧ ∀ path : Path, path.extension? = some "java".toList →
        Catalogue.full.select? path content = some Framework.spring.extractorOf) ∨
      ∀ line ∈ Text.lines content, ∀ qualified, NamedOn line qualified →
        IsStereotype (Text.afterLast '.' qualified) → '.' ∈ qualified) := by
  obtain ⟨place, present, mark⟩ := exists_mark_of_extract filled
  have line : place.line ∈ Text.lines content :=
    List.mem_of_getElem? (Place.getElem?_line present)
  refine ⟨⟨place.line, line, exists_namedOn_of_mark mark⟩, ?_⟩
  cases claimed : claims content with
  | true => exact .inl ⟨rfl, fun path java => select?_of_claims java claimed⟩
  | false =>
    refine .inr fun line member qualified named stereotype => ?_
    by_contra bare
    rw [claims_of_namedOn member named stereotype bare] at claimed
    cases claimed

def inlineController : Text :=
  Text.join ['\n'] ["import a.b.*;", "@Audited @Controller() class A \x7b",
    "  @a.b.GetMapping(\"x\") public String x() \x7b return \"\"; \x7d", "\x7d"]

theorem claims_or_qualified_of_inlineController :
    extract ⟨"A.java"⟩ inlineController ≠ [] ∧ claims inlineController = true ∧
      Catalogue.full.select? ⟨"A.java"⟩ inlineController = some Framework.spring.extractorOf := by
  have filled : extract ⟨"A.java"⟩ inlineController ≠ [] := by
    decide +kernel
  have written : NamedOn "@Audited @Controller() class A \x7b" "Controller" :=
    ⟨"@Controller() class A \x7b", "() class A \x7b", by decide +kernel, by decide +kernel⟩
  have line : "@Audited @Controller() class A \x7b".toList ∈ Text.lines inlineController := by
    decide +kernel
  obtain ⟨_, ⟨claimed, selected⟩ | qualified⟩ := claims_or_qualified filled
  · exact ⟨filled, claimed, selected ⟨"A.java"⟩ (by decide +kernel)⟩
  · have dotted : '.' ∈ "Controller".toList := qualified _ line _ written (.inl (by decide))
    exact absurd dotted (by decide)

def qualifiedController : Text :=
  Text.join ['\n'] ["@org.springframework.web.bind.annotation.RestController", "public class A \x7b",
    "    @GetMapping(\"/x\")", "    public String x() \x7b return \"\"; \x7d", "\x7d"]

/-- The quick look passes over a file that has an endpoint, and no other extractor takes it. -/
theorem not_claims_of_qualifiedController :
    extract ⟨"A.java"⟩ qualifiedController =
        [⟨"/x", .get, ⟨⟨"A.java"⟩, 2⟩, "A", "x", some .spring⟩] ∧
      claims qualifiedController = false ∧
      Catalogue.full.select? ⟨"A.java"⟩ qualifiedController = none := by
  refine ⟨by decide +kernel, by decide +kernel, ?_⟩
  rw [← Option.isNone_iff_eq_none]
  decide +kernel

end RouteAtlas.Spring
