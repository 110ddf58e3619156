import RouteAtlas.Proofs.Code.Balance
import RouteAtlas.Proofs.Code.Reader
import RouteAtlas.Proofs.Code.Visibility

namespace RouteAtlas.Spring

def IsCode (text : Text) : Prop :=
  isCommentOrBlank (Text.trim text) = false ∧ annotatedName? (Text.trimStart text) = none

instance (text : Text) : Decidable (IsCode text) := inferInstanceAs (Decidable (_ ∧ _))

/-- Texts are sifted up to the first code with a visibility word, which starts the rest. In front of it there
are remarks, which are blank texts, comments and annotations with their arguments, and code without a
visibility word. -/
inductive Sifted : (texts remarks codes rest : List Text) → Prop where
  | ended : Sifted [] [] [] []
  | found {code : Text} {below : List Text} (isCode : IsCode code)
      (visible : (behindVisibility? code).isSome) : Sifted (code :: below) [] [] (code :: below)
  | code {code : Text} {below remarks codes rest : List Text} (isCode : IsCode code)
      (silent : behindVisibility? code = none) (later : Sifted below remarks codes rest) :
      Sifted (code :: below) remarks (code :: codes) rest
  | comment {line : Text} {below remarks codes rest : List Text}
      (comment : isCommentOrBlank (Text.trim line) = true) (later : Sifted below remarks codes rest) :
      Sifted (line :: below) (line :: remarks) codes rest
  | mark {line qualified after lead : Text} {below front remarks codes rest : List Text}
      {site : AnnotationSite} (named : annotatedName? (Text.trimStart line) = some (qualified, after))
      (read : annotationAt (Text.afterLast '.' qualified) after below = site)
      (place : line :: below = front ++ (lead ++ site.rest) :: below.drop site.span)
      (later : Sifted (site.rest :: below.drop site.span) remarks codes rest) :
      Sifted (line :: below) (front ++ lead :: remarks) codes rest

section Annotations

variable {line qualified after : Text}

theorem isWord_of_isNameStart {c : Char} (starts : isNameStart c) : isWord c := by
  have small : c.toNat < 128 := by
    rcases Bool.or_eq_true_iff.mp starts with letter | line
    · rcases Bool.or_eq_true_iff.mp letter with upper | lower
      · have last := (of_decide_eq_true upper).2
        exact Nat.lt_of_le_of_lt (UInt32.le_iff_toNat_le.mp last) (by decide)
      · have last := of_decide_eq_true (Bool.and_eq_true_iff.mp lower).2
        exact Nat.lt_of_le_of_lt (UInt32.le_iff_toNat_le.mp last) (by decide)
    · rw [beq_iff_eq.mp line]
      decide
  have each : ∀ code < 128, isNameStart (Char.ofNat code) → isWord (Char.ofNat code) := by decide +kernel
  simpa using each c.toNat small (by simpa using starts)

theorem parts_of_annotatedName? {text : Text} (named : annotatedName? text = some (qualified, after)) :
    text = '@' :: (qualified ++ after) ∧ wordAt after.head? = false ∧
      ∃ c, ('@' :: qualified).getLast? = some c ∧ isBlank c = false := by
  unfold annotatedName? at named
  split at named
  · rename_i c rest
    dsimp only at named
    split at named
    · rename_i starts
      obtain ⟨rfl, rfl⟩ := Prod.mk.inj (Option.some.inj named)
      have solid : ∀ d ∈ c :: rest.takeWhile (fun c => isWord c || c == '.'), isBlank d = false := by
        intro d member
        rcases List.mem_cons.mp member with rfl | later
        · exact not_blank_of_isWord (isWord_of_isNameStart starts)
        · have dotted := List.all_eq_true.mp List.all_takeWhile d later
          simp only [Bool.or_eq_true, beq_iff_eq] at dotted
          rcases dotted with word | rfl
          · exact not_blank_of_isWord word
          · decide
      refine ⟨by simp, ?_, _, List.getLast?_eq_some_getLast (by simp), ?_⟩
      · have stops := List.head?_dropWhile_not (fun c => isWord c || c == '.') rest
        cases first : (rest.dropWhile fun c => isWord c || c == '.').head? with
        | none => rfl
        | some d =>
          rw [first] at stops
          simp only [Bool.or_eq_false_iff] at stops
          exact stops.1
      · rw [List.getLast_cons (by simp)]
        exact solid _ (List.getLast_mem (by simp))
    · cases named
  · cases named

theorem exists_place_annotationAt (below : List Text)
    (named : annotatedName? (Text.trimStart line) = some (qualified, after)) (name : Text) : ∃ front lead c,
      line :: below = front ++ (lead ++ (annotationAt name after below).rest) ::
        below.drop (annotationAt name after below).span ∧
      lead.getLast? = some c ∧ isBlank c = false ∧
      BreaksWord lead (annotationAt name after below).rest := by
  obtain ⟨spelled, stops, c, last, solid⟩ := parts_of_annotatedName? named
  have start : line = (line.takeWhile isBlank ++ '@' :: qualified) ++ after := by
    rw [List.append_assoc, List.cons_append, ← spelled]
    exact List.takeWhile_append_dropWhile.symm
  unfold annotationAt
  cases read : Call.read? after below with
  | none =>
    refine ⟨[], line.takeWhile isBlank ++ '@' :: qualified, c, ?_, ?_, solid, .inr stops⟩
    · exact congrArg (· :: below) start
    · rw [List.getLast?_append, last]
      rfl
  | some call =>
    obtain ⟨gap, rest, whole, ending, more, rfl, _, place, _, _, _, span⟩ :=
      Call.read?_eq_some_iff.mp read
    have closed (lead : Text) : BreaksWord (lead ++ [')']) call.rest := .inl (by simp; decide)
    cases whole with
    | nil =>
      obtain ⟨rfl, rfl⟩ := List.cons.inj place
      refine ⟨[], line.takeWhile isBlank ++ '@' :: qualified ++ gap ++ '(' :: ending ++ [')'], ')', ?_,
        List.getLast?_concat, by decide, closed _⟩
      dsimp only
      rw [span, List.length_nil, List.drop_zero, List.nil_append]
      refine congrArg (· :: below) (start.trans ?_)
      simp
    | cons head whole =>
      obtain ⟨rfl, rfl⟩ := List.cons.inj place
      refine ⟨line :: whole, ending ++ [')'], ')', ?_, List.getLast?_concat, by decide, closed _⟩
      dsimp only
      rw [span, List.length_cons]
      simp

theorem eq_of_place {front also lines behind : List Text} {lead other rest : Text}
    (place : lines = front ++ (lead ++ rest) :: behind)
    (again : lines = also ++ (other ++ rest) :: behind) : front = also ∧ lead = other := by
  obtain ⟨same, tail⟩ := List.append_inj' (place.symm.trans again) rfl
  exact ⟨same, List.append_cancel_right (List.cons.inj tail).1⟩

end Annotations

namespace Sifted

variable {texts remarks codes rest : List Text}

/-- Where no remark holds a visibility word, the first one stands in the code that starts the rest. -/
theorem findSome?_eq (sifted : Sifted texts remarks codes rest)
    (silent : ∀ remark ∈ remarks, behindVisibility? remark = none) :
    texts.findSome? behindVisibility? = rest.head?.bind behindVisibility? := by
  induction sifted with
  | ended => rfl
  | found _ visible =>
    obtain ⟨right, found⟩ := Option.isSome_iff_exists.mp visible
    simp [found]
  | code _ unseen _ ih => rw [List.findSome?_cons, unseen, ih silent]
  | comment _ _ ih =>
    rw [List.forall_mem_cons] at silent
    rw [List.findSome?_cons, silent.1, ih silent.2]
  | @mark line qualified after lead below front remarks codes rest site named read place _ ih =>
    obtain ⟨also, other, c, again, last, solid, breaks⟩ :=
      exists_place_annotationAt below named (Text.afterLast '.' qualified)
    rw [read] at again breaks
    -- how the lines are cut is known from what is left of them
    obtain ⟨rfl, rfl⟩ := eq_of_place place again
    have whole : front.findSome? behindVisibility? = none :=
      List.findSome?_eq_none_iff.mpr fun text member => silent text (List.mem_append_left _ member)
    have cut := behindVisibility?_append last solid (silent lead (by simp)) breaks
    have behind := ih fun remark member => silent remark (by simp [member])
    rw [List.findSome?_cons] at behind
    rw [place, List.findSome?_append, whole, Option.none_or, List.findSome?_cons, cut, behind]

theorem silent_of_mem_codes (sifted : Sifted texts remarks codes rest) {code : Text}
    (member : code ∈ codes) : behindVisibility? code = none := by
  induction sifted with
  | ended => cases member
  | found _ _ => cases member
  | code _ unseen _ ih =>
    rcases List.mem_cons.mp member with rfl | later
    · exact unseen
    · exact ih later
  | comment _ _ ih => exact ih member
  | mark _ _ _ _ ih => exact ih member

theorem isSome_of_head?_rest (sifted : Sifted texts remarks codes rest) {code : Text}
    (first : rest.head? = some code) : (behindVisibility? code).isSome := by
  induction sifted with
  | ended => cases first
  | found _ visible =>
    cases first
    exact visible
  | code _ _ _ ih => exact ih first
  | comment _ _ ih => exact ih first
  | mark _ _ _ _ ih => exact ih first

end Sifted

def extent : List Text → Nat
  | [] => 0
  | text :: texts => text.length + 1 + extent texts

theorem extent_append (texts more : List Text) : extent (texts ++ more) = extent texts + extent more := by
  induction texts with
  | nil => simp [extent]
  | cons text texts ih => simp [extent, ih, Nat.add_assoc]

theorem exists_sifted (texts : List Text) : ∃ remarks codes rest, Sifted texts remarks codes rest := by
  -- an annotation may leave a line below unfinished, so the induction is on the number of characters
  induction total : extent texts using Nat.strongRecOn generalizing texts with
  | _ size ih =>
    subst total
    cases texts with
    | nil => exact ⟨[], [], [], .ended⟩
    | cons line below =>
      have shorter : extent below < extent (line :: below) := by simp [extent]
      obtain ⟨remarks, codes, rest, later⟩ := ih _ shorter below rfl
      cases comment : isCommentOrBlank (Text.trim line) with
      | true => exact ⟨_, _, _, .comment comment later⟩
      | false =>
        cases named : annotatedName? (Text.trimStart line) with
        | none =>
          cases visible : behindVisibility? line with
          | none => exact ⟨_, _, _, .code ⟨comment, named⟩ visible later⟩
          | some right => exact ⟨_, _, _, .found ⟨comment, named⟩ (by rw [visible]; rfl)⟩
        | some parts =>
          obtain ⟨qualified, after⟩ := parts
          obtain ⟨front, lead, c, place, last, _⟩ :=
            exists_place_annotationAt below named (Text.afterLast '.' qualified)
          have filled : 0 < lead.length := List.length_pos_iff.mpr (by rintro rfl; cases last)
          have smaller : extent ((annotationAt (Text.afterLast '.' qualified) after below).rest ::
              below.drop (annotationAt (Text.afterLast '.' qualified) after below).span) <
              extent (line :: below) := by
            rw [place, extent_append, extent, extent, List.length_append]
            omega
          obtain ⟨remarks, codes, rest, behind⟩ := ih _ smaller _ rfl
          exact ⟨_, _, _, .mark named rfl place behind⟩

section Search

def endsSearch (text : Text) : Bool :=
  (className? (Text.trim text)).isSome || startsWithMapping (Text.trim text)

def aboveVisible (texts : List Text) : List Text :=
  texts.takeWhile fun text => (behindVisibility? text).isNone

theorem handlerIn_eq (texts : List Text) :
    handlerIn texts = if (aboveVisible texts).any endsSearch then []
      else ((texts.findSome? behindVisibility?).bind declaredName?).getD [] := by
  induction texts with
  | nil => rfl
  | cons line below ih =>
    rw [handlerIn, aboveVisible, List.takeWhile_cons, List.findSome?_cons]
    cases visible : behindVisibility? line with
    | some right =>
      rw [behindVisibility?] at visible
      simp [visible]
    | none =>
      rw [behindVisibility?] at visible
      have ends : ((className? (Text.trim line)).isSome || startsWithMapping (Text.trim line)) =
          endsSearch line := rfl
      simp only [visible, ends, ih, behindVisibility?, Option.isNone_none, if_true, List.any_cons]
      cases endsSearch line <;> rfl

end Search

section Origin

variable {lines : List Text} {file : Path} {place : Place} {state : State} {endpoint : Endpoint}

def behindSite (site : AnnotationSite) (below : List Text) : List Text :=
  site.rest :: below.drop site.span

def FromMapping (lines : List Text) (endpoint : Endpoint) : Prop :=
  ∃ place ∈ Place.all lines, place.number = endpoint.location.line ∧
    ∃ site ∈ annotationsOn place.line place.below,
      mappingMethod? site.name site.arguments = some endpoint.method ∧
      endpoint.handler = handlerIn (behindSite site place.below)

theorem readSite_fromMapping (member : place ∈ Place.all lines)
    (before : ∀ endpoint ∈ state.endpoints, FromMapping lines endpoint) {site : AnnotationSite}
    (written : site ∈ annotationsOn place.line place.below) :
    ∀ endpoint ∈ (readSite file place state site).endpoints, FromMapping lines endpoint := by
  unfold readSite
  split
  · exact before
  · split
    · exact before
    · split
      · rename_i method scope named _
        split
        · intro endpoint present
          rcases List.mem_append.mp present with earlier | new
          · exact before endpoint earlier
          · rw [List.mem_singleton.mp new]
            exact ⟨place, member, rfl, site, written, named, rfl⟩
        · exact before
      · exact before

theorem endpoints_openClass (state : State) (trimmed : Text) :
    (openClass state trimmed).endpoints = state.endpoints := by
  unfold openClass
  split <;> rfl

theorem keeps_fromMapping (file : Path) (lines : List Text) :
    (reader file).Keeps lines fun _ state => ∀ endpoint ∈ state.endpoints, FromMapping lines endpoint := by
  refine LineReader.keeps_annotated (fun _ _ _ _ before => before)
    (fun _ member _ _ written _ before => readSite_fromMapping member before written) ?_
  intro place _ _ _ _ _ _ read
  dsimp only
  rwa [endpoints_openClass]

theorem fromMapping_of_mem_extract {content : Text} (found : endpoint ∈ extract file content) :
    FromMapping (Text.lines content) endpoint :=
  (keeps_fromMapping file (Text.lines content)).foldl_all (by rintro _ ⟨⟩) endpoint found

end Origin

structure NamedBy (texts codes rest : List Text) (handler : Text) : Prop where
  /-- The code that starts the rest names the handler, unless a class or a mapping stands above. -/
  named : handler = if (aboveVisible texts).any endsSearch then []
    else ((rest.head?.bind behindVisibility?).bind declaredName?).getD []
  /-- The declaration is the first code, and names the handler if it holds a visibility word. -/
  declaration : ∀ declaration, (codes ++ rest).head? = some declaration →
    (behindVisibility? declaration).isSome → rest.head? = some declaration
  /-- The first name of the code counts, unless a parenthesis stands in front of the visibility word or
  right behind it. -/
  first : ∀ code, rest.head? = some code → ∃ left, ∃ word ∈ visibilityWords, ∃ right,
    Text.trim code = left ++ (word ++ right) ∧ behindVisibility? code = some right ∧
      ('(' ∉ left → (Text.trimStart right).head? ≠ some '(' →
        declaredName? right = declaredName? (Text.trim code))

theorem namedBy_handlerIn {texts remarks codes rest : List Text}
    (sifted : Sifted texts remarks codes rest)
    (silent : ∀ remark ∈ remarks, behindVisibility? remark = none) :
    NamedBy texts codes rest (handlerIn texts) where
  named := by rw [handlerIn_eq, sifted.findSome?_eq silent]
  declaration := by
    intro declaration first visible
    cases codes with
    | nil => exact first
    | cons code codes =>
      cases first
      rw [sifted.silent_of_mem_codes List.mem_cons_self] at visible
      cases visible
  first := by
    intro code start
    obtain ⟨right, visible⟩ := Option.isSome_iff_exists.mp (sifted.isSome_of_head?_rest start)
    obtain ⟨left, word, listed, split, _, ends⟩ := exists_of_afterVisibility? visible
    refine ⟨left, word, listed, right, split, visible, ?_⟩
    intro free apart
    have wordFree : '(' ∉ word :=
      not_mem_of_accepted (isWord_of_mem_visibilityWords listed).2 (by decide)
    rw [split, ← List.append_assoc, declaredName?_append (by simp [free, wordFree]) ends apart]

/-- The handler of an endpoint is looked for behind a mapping on its line. Unless a comment or an annotation
behind the mapping holds a visibility word, it is named by the declaration that the mapping decorates, or,
if this holds no visibility word, by the first code below that does. -/
theorem handler_of_mem_extract {file : Path} {content : Text} {endpoint : Endpoint}
    (found : endpoint ∈ extract file content) :
    ∃ place ∈ Place.all (Text.lines content), place.number = endpoint.location.line ∧
      ∃ site ∈ annotationsOn place.line place.below,
        mappingMethod? site.name site.arguments = some endpoint.method ∧
        (∃ remarks codes rest, Sifted (behindSite site place.below) remarks codes rest) ∧
        ∀ remarks codes rest, Sifted (behindSite site place.below) remarks codes rest →
          (∀ remark ∈ remarks, behindVisibility? remark = none) →
          NamedBy (behindSite site place.below) codes rest endpoint.handler := by
  obtain ⟨place, member, number, site, written, mapped, handler⟩ := fromMapping_of_mem_extract found
  refine ⟨place, member, number, site, written, mapped, exists_sifted _, ?_⟩
  intro remarks codes rest sifted silent
  rw [handler]
  exact namedBy_handlerIn sifted silent

def auditedController : Text :=
  Text.join ['\n'] ["@RestController", "public class UserController \x7b", "    @GetMapping(\"/all\")",
    "    // every user", "    @Audited(", "        level = \"full\")",
    "    public List<User> all() \x7b", "    \x7d", "\x7d"]

theorem handler_of_mem_extract_of_auditedController :
    (⟨"/all", .get, ⟨⟨"A.java"⟩, 2⟩, "UserController", "all", some .spring⟩ : Endpoint) ∈
        extract ⟨"A.java"⟩ auditedController ∧
      (∀ remark ∈ (["", "    // every user", "    @Audited(", "        level = \"full\")", ""] : List Text),
        behindVisibility? remark = none) ∧
      NamedBy ["", "    // every user", "    @Audited(", "        level = \"full\")",
        "    public List<User> all() \x7b", "    \x7d", "\x7d"] []
        ["    public List<User> all() \x7b", "    \x7d", "\x7d"] "all" := by
  have found : (⟨"/all", .get, ⟨⟨"A.java"⟩, 2⟩, "UserController", "all", some .spring⟩ : Endpoint) ∈
      extract ⟨"A.java"⟩ auditedController := by
    decide +kernel
  have silent : ∀ remark ∈ (["", "    // every user", "    @Audited(", "        level = \"full\")", ""] :
      List Text), behindVisibility? remark = none := by
    decide +kernel
  obtain ⟨place, member, number, site, written, _, _, named⟩ := handler_of_mem_extract found
  obtain rfl : place = ⟨["public class UserController \x7b", "@RestController"],
      "    @GetMapping(\"/all\")", ["    // every user", "    @Audited(", "        level = \"full\")",
      "    public List<User> all() \x7b", "    \x7d", "\x7d"]⟩ :=
    Place.eq_of_number_eq member (by decide +kernel) number
  have only : annotationsOn "    @GetMapping(\"/all\")" ["    // every user", "    @Audited(",
      "        level = \"full\")", "    public List<User> all() \x7b", "    \x7d", "\x7d"] =
      [⟨"GetMapping", "\"/all\"", 0, ""⟩] := by
    decide +kernel
  rw [only, List.mem_singleton] at written
  subst written
  have reads : annotatedName? (Text.trimStart "    @Audited(") = some ("Audited".toList, "(".toList) := by
    decide +kernel
  have closes : annotationAt (Text.afterLast '.' "Audited".toList) "("
      ["        level = \"full\")", "    public List<User> all() \x7b", "    \x7d", "\x7d"] =
      ⟨"Audited", "\n        level = \"full\"", 1, ""⟩ := by
    decide +kernel
  have behind : Sifted ["", "    public List<User> all() \x7b", "    \x7d", "\x7d"] [""] []
      ["    public List<User> all() \x7b", "    \x7d", "\x7d"] :=
    .comment rfl (.found (by decide +kernel) (by decide +kernel))
  have sifted : Sifted ["    @Audited(", "        level = \"full\")", "    public List<User> all() \x7b",
      "    \x7d", "\x7d"] (["    @Audited(".toList] ++ "        level = \"full\")".toList :: [""]) []
      ["    public List<User> all() \x7b", "    \x7d", "\x7d"] :=
    .mark reads closes rfl behind
  exact ⟨found, silent, named _ _ _ (.comment rfl (.comment rfl sifted)) silent⟩

def packagePrivateMethod : Text :=
  Text.join ['\n'] ["@RestController", "public class A \x7b", "    @GetMapping(\"/a\")",
    "    String a() \x7b return \"\"; \x7d", "", "    public String helper() \x7b return \"\"; \x7d",
    "\x7d"]

/-- The visible method below a mapped method names the handler, though the declaration that the mapping
decorates has a name of its own. -/
theorem handler_of_visible_method_below :
    (⟨"/a", .get, ⟨⟨"A.java"⟩, 2⟩, "A", "helper", some .spring⟩ : Endpoint) ∈
        extract ⟨"A.java"⟩ packagePrivateMethod ∧
      ∃ place ∈ Place.all (Text.lines packagePrivateMethod), place.number = 2 ∧
        ∃ site, annotationsOn place.line place.below = [site] ∧
          ∃ remarks declaration rest, Sifted (behindSite site place.below) remarks [declaration] rest ∧
            declaredName? declaration = some "a" := by
  have sifted : Sifted ["", "    String a() \x7b return \"\"; \x7d", "",
      "    public String helper() \x7b return \"\"; \x7d", "\x7d"] ["", ""]
      ["    String a() \x7b return \"\"; \x7d"]
      ["    public String helper() \x7b return \"\"; \x7d", "\x7d"] :=
    .comment rfl (.code (by decide +kernel) (by decide +kernel)
      (.comment rfl (.found (by decide +kernel) (by decide +kernel))))
  refine ⟨by decide +kernel, ⟨["public class A \x7b", "@RestController"], "    @GetMapping(\"/a\")",
    ["    String a() \x7b return \"\"; \x7d", "", "    public String helper() \x7b return \"\"; \x7d",
      "\x7d"]⟩, by decide +kernel, rfl, ⟨"GetMapping", "\"/a\"", 0, ""⟩, by decide +kernel, _, _, _,
    sifted, by decide +kernel⟩

end RouteAtlas.Spring
