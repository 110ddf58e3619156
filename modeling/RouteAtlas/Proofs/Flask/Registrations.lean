import RouteAtlas.Extract.Flask
import RouteAtlas.Proofs.Code.Indented
import RouteAtlas.Proofs.Route

namespace RouteAtlas.Flask

open Pattern Indented

inductive Item where
  | function (route : Fragment) (methods : List Identifier) (name : Identifier)
  | resource (name : Identifier) (methods : List Identifier)
  | registration (name : Identifier) (route : Fragment)
  | blueprint (name : Identifier) (base : Fragment)

def servedMethods : List (Text × Method) :=
  [("get".toList, .get), ("post".toList, .post), ("put".toList, .put), ("delete".toList, .delete),
    ("patch".toList, .patch)]

def served? (name : Identifier) : Option Method := servedMethods.lookup name.text

def orGet (methods : List Method) : List Method := if methods.isEmpty then [.get] else methods

namespace Item

def methodList (methods : List Identifier) : Text :=
  Text.join ", ".toList (methods.map fun method => quoted '\'' method.text)

def routeArguments (route : Fragment) (methods : List Identifier) : Text :=
  quoted '\'' route.text ++ (", ".toList ++ ("methods".toList ++
    '=' :: '[' :: (methodList methods ++ [']'])))

def routeLine (route : Fragment) (methods : List Identifier) : Text :=
  "@app.route".toList ++ '(' :: (routeArguments route methods ++ [')'])

def resourceLine (name : Identifier) : Text := "class ".toList ++ (name.text ++ "(Resource):".toList)

def methodLine (name : Identifier) : Text := "    def ".toList ++ (name.text ++ "(self):".toList)

def methodBody : Text := "        pass"

def registrationArguments (name : Identifier) (route : Fragment) : Text :=
  name.text ++ (", ".toList ++ quoted '\'' route.text)

def registrationLine (name : Identifier) (route : Fragment) : Text :=
  "api.add_resource".toList ++ '(' :: (registrationArguments name route ++ [')'])

def blueprintArguments (name : Identifier) (base : Fragment) : Text :=
  (quoted '\'' name.text ++ ", __name__, ".toList) ++
    ("url_prefix".toList ++ '=' :: quoted '\'' base.text)

def blueprintLine (name : Identifier) (base : Fragment) : Text :=
  "bp = Blueprint".toList ++ '(' :: (blueprintArguments name base ++ [')'])

def first : Item → Text
  | .function route methods _ => routeLine route methods
  | .resource name _ => resourceLine name
  | .registration name route => registrationLine name route
  | .blueprint name base => blueprintLine name base

def rest : Item → List Text
  | .function _ _ name => [functionLine false name, passLine]
  | .resource _ [] => [passLine]
  | .resource _ methods => methods.flatMap fun method => [methodLine method, methodBody]
  | _ => []

def lines (item : Item) : List Text := item.first :: item.rest

def base? : Item → Option Text
  | .blueprint _ base => some base.text
  | _ => none

def known? : Item → Option (Text × List Method)
  | .resource name methods => some (name.text, (methods.filterMap served?).eraseDups)
  | _ => none

def endpoints (file : Path) (base : Text) (known : List (Text × List Method)) (line : Nat) :
    Item → List Endpoint
  | .function route methods name =>
    (orGet (methods.map fun method => Method.ofToken method.text).eraseDups).map fun method =>
      ⟨Route.compose [base, route.text], method, ⟨file, line⟩, Endpoint.defaultOwner, name.text,
        some .flask⟩
  | .registration name route => (orGet ((known.lookup name.text).getD [])).map fun method =>
      ⟨Route.compose [base, route.text], method, ⟨file, line⟩, name.text,
        Text.lowerBasic method.tag, some .flaskRestful⟩
  | _ => []

end Item

/-- The endpoints of items, each for the number of its first line. -/
def endpointsFrom (file : Path) (base : Text) (known : List (Text × List Method)) (line : Nat) :
    List Item → List Endpoint
  | [] => []
  | item :: items => item.endpoints file base known line ++
      endpointsFrom file base known (line + item.lines.length) items

section Lines

variable {line : Text} {above below : List Text}

/-- Inside an item there are only the headers and the bodies of functions. -/
theorem Item.of_mem_rest {item : Item} (member : line ∈ item.rest) :
    (∃ name, line = functionLine false name ∨ line = methodLine name) ∨
      line = passLine ∨ line = methodBody := by
  cases item with
  | function route methods name =>
    simp only [rest, List.mem_cons, List.not_mem_nil, or_false] at member
    rcases member with header | body
    · exact .inl ⟨name, .inl header⟩
    · exact .inr (.inl body)
  | resource name methods =>
    cases methods with
    | nil => exact .inr (.inl (List.mem_singleton.mp member))
    | cons method methods =>
      obtain ⟨other, _, spelled⟩ := List.mem_flatMap.mp member
      simp only [List.mem_cons, List.not_mem_nil, or_false] at spelled
      rcases spelled with header | body
      · exact .inl ⟨other, .inr header⟩
      · exact .inr (.inr body)
  | registration name route => cases member
  | blueprint name base => cases member

theorem Item.gives_first {α : Type} {find : Place → List α} {found : List α} (item : Item)
    (nothing : ∀ line ∈ item.rest, ∀ above below, find ⟨above, line, below⟩ = [])
    (here : find ⟨above, item.first, item.rest ++ below⟩ = found) :
    Place.Gives find above item.lines below found := by
  have rest : Place.Gives find ([item.first].reverse ++ above) item.rest below [] := .none nothing
  have both := (Place.Gives.single here).append rest
  rw [List.append_nil] at both
  exact both

end Lines

section Methods

theorem addMethod_eraseDups (methods : List Method) (method : Method) :
    addMethod methods.eraseDups method = (methods ++ [method]).eraseDups := by
  rw [List.eraseDups_append, addMethod]
  by_cases listed : method ∈ methods
  · simp [listed, List.removeAll]
  · simp [listed, List.removeAll, List.eraseDups_cons]

theorem foldl_addMethod (methods more : List Method) :
    more.foldl addMethod methods.eraseDups = (methods ++ more).eraseDups := by
  induction more generalizing methods with
  | nil => simp
  | cons method more ih =>
    rw [List.foldl_cons, addMethod_eraseDups, ih, List.append_assoc, List.singleton_append]

theorem methodsOf_eq (known : List (Text × List Method)) (name : Text) :
    methodsOf known name = orGet ((known.lookup name).getD []) := by
  unfold methodsOf
  split
  · rename_i found
    rw [found]
    rfl
  · rename_i methods filled found
    rw [found, Option.getD_some, orGet, if_neg]
    simpa using filled
  · rename_i missing
    rw [missing]
    rfl

end Methods

section Arguments

variable (route base : Fragment) (methods : List Identifier) (name : Identifier)

theorem not_mem_methodList {c : Char} (other : isWord c = false) (listed : c ∉ "', ".toList) :
    c ∉ Item.methodList methods := by
  simp only [String.reduceToList, List.mem_cons, List.not_mem_nil, not_or] at listed
  unfold Item.methodList
  induction methods with
  | nil => simp [Text.join]
  | cons method methods ih =>
    have first : c ∉ quoted '\'' method.text := by simp [quoted, method.not_mem other, listed]
    cases methods with
    | nil => simpa [Text.join] using first
    | cons next methods =>
      rw [List.map_cons] at ih ⊢
      simp only [List.map_cons, Text.join, List.mem_append, not_or] at ih ⊢
      exact ⟨⟨first, by simp [listed]⟩, ih⟩

theorem inert_methodList : Inert (Item.methodList methods) := by
  unfold Item.methodList
  induction methods with
  | nil => exact .nil
  | cons method methods ih =>
    have first : Inert (quoted '\'' method.text) := method.inert_quoted (.inr rfl)
    cases methods with
    | nil => exact first
    | cons next methods => exact (first.append (.of_plain (by decide))).append ih

theorem inert_routeArguments : Inert (Item.routeArguments route methods) := by
  have literal := route.inert_quoted (.inr rfl)
  have lead : Inert "methods=[".toList := .of_plain (by decide)
  have list := (inert_methodList methods).append (show Inert [']'] from .of_plain (by decide))
  exact literal.append ((Inert.of_plain (by decide)).append (lead.append list))

theorem inert_registrationArguments : Inert (Item.registrationArguments name route) :=
  name.inert.append ((Inert.of_plain (by decide)).append (route.inert_quoted (.inr rfl)))

theorem not_mem_routeArguments {c : Char} (other : isRouteChar c = false)
    (listed : c ∉ "', methods=[]".toList) : c ∉ Item.routeArguments route methods := by
  simp only [String.reduceToList, List.mem_cons, List.not_mem_nil, not_or] at listed
  have list : c ∉ Item.methodList methods :=
    not_mem_methodList methods (isWord_eq_false_of_not_routeChar other) (by simp [listed])
  unfold Item.routeArguments
  simp [quoted, route.not_mem other, list, listed]

theorem not_assigns_routeArguments : ¬ Assigns (Item.routeArguments route methods) := by
  have front : '=' ∉ quoted '\'' route.text ++ (", ".toList ++ "methods".toList) := by
    simp (disch := decide) [quoted, route.not_mem]
  have back : '=' ∉ '[' :: (Item.methodList methods ++ [']']) := by
    simp (disch := decide) [not_mem_methodList]
  have plain := not_assigns_of_single front back (by decide) (by decide)
  rw [List.append_assoc, List.append_assoc] at plain
  exact plain

theorem partIn?_methodsPattern :
    methodsPattern.partIn? 1 (Item.routeArguments route methods) = some (Item.methodList methods) := by
  have stops : ∀ c, ('=' :: '[' :: (Item.methodList methods ++ [']'])).head? = some c →
      isBlank c = false := by
    rintro c ⟨⟩
    decide
  have opens : ∀ c, ('[' :: (Item.methodList methods ++ [']'])).head? = some c →
      isBlank c = false := by
    rintro c ⟨⟩
    decide
  have inside : ∀ c ∈ Item.methodList methods, !(c == ']' || c == ')') := by
    intro c member
    have square := not_mem_methodList methods (show isWord ']' = false by decide) (by decide)
    have round := not_mem_methodList methods (show isWord ')' = false by decide) (by decide)
    have differs : c ≠ ']' ∧ c ≠ ')' :=
      ⟨by rintro rfl; exact square member, by rintro rfl; exact round member⟩
    simp [differs]
  have read : Reads methodsPattern (lastOr none (quoted '\'' route.text ++ ", ".toList))
      ("methods".toList ++ [] ++ ['='] ++ [] ++ ['['] ++ Item.methodList methods ++ [']']) []
      ([] ++ [] ++ [] ++ [] ++ [] ++ [(1, Item.methodList methods)] ++ []) := by
    refine .seq (.seq (.seq (.seq (.seq (.seq (.text _) (.many (by simp) ?_)) (.text _))
      (.many (by simp) ?_)) (.one (by decide))) (.capture 1 (.many inside ?_))) (.one (by decide))
    · simpa using stops
    · simpa using opens
    · rintro c ⟨⟩
      decide
  have nowhere : ∀ left c right, quoted '\'' route.text ++ ", ".toList = left ++ c :: right →
      methodsPattern.runs ⟨lastOr none left, c :: (right ++ ("methods".toList ++ [] ++ ['='] ++ [] ++
        ['['] ++ Item.methodList methods ++ [']'] ++ []))⟩ = [] := by
    intro left c right split
    refine runs_eq_nil fun stop passes => ?_
    simp only [methodsPattern, blanks, passes_seq, passes_text, passes_many] at passes
    obtain ⟨_, ⟨_, ⟨_, ⟨_, ⟨_, ⟨_, ⟨rest, found, rfl⟩, rfl⟩, more, sign, _⟩, _⟩, _⟩, _⟩, _⟩ := passes
    have free : '=' ∉ quoted '\'' route.text ++ ", ".toList := by
      simp (disch := decide) [quoted, route.not_mem]
    have again : c :: (right ++ ("methods".toList ++ '=' :: ('[' :: (Item.methodList methods ++ [']'])))) =
        "methods".toList ++ rest := by
      simpa using found
    exact not_keyword_earlier (by decide) (by decide) free split sign again
  have found := read.partIn? nowhere 1
  have pieces : Item.routeArguments route methods = quoted '\'' route.text ++ ", ".toList ++
      ("methods".toList ++ [] ++ ['='] ++ [] ++ ['['] ++ Item.methodList methods ++ [']'] ++ []) := by
    unfold Item.routeArguments
    simp
  rw [pieces, found]
  rfl

theorem join_comma (pieces : List Text) (first : Text) :
    Text.join ", ".toList (first :: pieces) = Text.join [','] (first :: pieces.map (' ' :: ·)) := by
  induction pieces generalizing first with
  | nil => rfl
  | cons piece pieces ih =>
    have step : ∀ separator next, ∀ others : List Text, Text.join separator (first :: next :: others) =
        first ++ separator ++ Text.join separator (next :: others) := fun _ _ _ => rfl
    rw [List.map_cons, step, step, ih piece]
    cases pieces <;> simp [Text.join]

theorem tokens_methodList :
    (((Text.splitOn ',' (Item.methodList methods)).map fun item =>
      (firstLiteral? item).getD (Text.trim item)).filter (!·.isEmpty)) =
        methods.map Identifier.text := by
  have literal : ∀ method : Identifier, firstLiteral? (quoted '\'' method.text) = some method.text := by
    intro method
    have found := firstLiteral?_quoted (method.not_mem (show isWord '\'' = false by decide)) []
      (.inr rfl)
    rwa [List.append_nil] at found
  have spaced : ∀ method : Identifier, firstLiteral? (' ' :: quoted '\'' method.text) =
      some method.text := by
    intro method
    rw [← literal method]
    rfl
  have filled : ∀ method : Identifier, method.text ≠ [] := fun method => method.filled
  have comma : ∀ method : Identifier, ',' ∉ quoted '\'' method.text := by
    intro method
    simp (disch := decide) [quoted, method.not_mem]
  cases methods with
  | nil => rfl
  | cons first others =>
    have free : ∀ piece ∈ quoted '\'' first.text ::
        (others.map fun method => quoted '\'' method.text).map (' ' :: ·), ',' ∉ piece := by
      intro piece member
      simp only [List.mem_cons, List.mem_map] at member
      rcases member with rfl | ⟨_, ⟨method, _, rfl⟩, rfl⟩
      · exact comma first
      · simp [comma method]
    rw [Item.methodList, List.map_cons, join_comma, Text.splitOn_join (by simp) free]
    simp [literal, spaced, filled, Function.comp_def]

theorem declaredMethods_routeArguments :
    declaredMethods (Item.routeArguments route methods) =
      orGet (methods.map fun method => Method.ofToken method.text).eraseDups := by
  have distinct : (methods.map Identifier.text).foldl (fun found token =>
      addMethod found (.ofToken token)) [] =
        (methods.map fun method => Method.ofToken method.text).eraseDups := by
    have added := foldl_addMethod [] (methods.map fun method => Method.ofToken method.text)
    rw [List.foldl_map] at added ⊢
    exact added
  rw [declaredMethods, partIn?_methodsPattern]
  simp only [Option.map_some, Option.getD_some, tokens_methodList, distinct]
  rfl

end Arguments

section Blueprints

variable {above below : List Text}

theorem keywordAt?_routeLine (route : Fragment) (methods : List Identifier) :
    keywordAt? blueprintPattern basePattern ⟨above, Item.routeLine route methods, below⟩ = none := by
  have back : '(' ∉ Item.routeArguments route methods ++ ')' :: [] := by
    simp (disch := decide) [not_mem_routeArguments]
  exact keywordAt?_of_call _ (by decide) back (inert_routeArguments route methods)
    (not_assigns_routeArguments route methods)

theorem keywordAt?_header {lead : Text} (name : Identifier) (parameters : Text) (before : '(' ∉ lead)
    (plain : parameters.all isWord) :
    keywordAt? blueprintPattern basePattern
      ⟨above, lead ++ (name.text ++ '(' :: (parameters ++ "):".toList)), below⟩ = none := by
  have words : ∀ c ∈ parameters, isWord c := List.all_eq_true.mp plain
  have front : '(' ∉ lead ++ name.text := by
    simp (disch := decide) [before, name.not_mem]
  have back : '(' ∉ parameters ++ ')' :: [':'] := by
    simp [not_mem_of_accepted words (show isWord '(' = false by decide)]
  have signless : '=' ∉ parameters := not_mem_of_accepted words (by decide)
  have inert : Inert parameters := .of_accepted words (by decide)
  rw [← List.append_assoc]
  exact keywordAt?_of_call _ front back inert (not_assigns_of_not_mem signless)

theorem keywordAt?_registrationLine (name : Identifier) (route : Fragment) :
    keywordAt? blueprintPattern basePattern ⟨above, Item.registrationLine name route, below⟩ =
      none := by
  have back : '(' ∉ Item.registrationArguments name route ++ ')' :: [] := by
    unfold Item.registrationArguments
    simp (disch := decide) [quoted, name.not_mem, route.not_mem]
  have signless : '=' ∉ Item.registrationArguments name route := by
    unfold Item.registrationArguments
    simp (disch := decide) [quoted, name.not_mem, route.not_mem]
  exact keywordAt?_of_call _ (by decide) back (inert_registrationArguments route name)
    (not_assigns_of_not_mem signless)

theorem keywordAt?_blueprintLine (name : Identifier) (base : Fragment) :
    keywordAt? blueprintPattern basePattern ⟨above, Item.blueprintLine name base, below⟩ =
      some base.text := by
  obtain ⟨found, here, rest⟩ : ∃ found, blueprintPattern.find? (Item.blueprintLine name base) =
      some found ∧ found.rest = '(' :: (Item.blueprintArguments name base ++ [')']) :=
    exists_find?_constructor "bp = ".toList (by decide) (by decide) (by decide) _
  have inert : Inert (Item.blueprintArguments name base) := by
    have keyword : Inert "url_prefix=".toList := .of_plain (by decide)
    exact ((name.inert_quoted (.inr rfl)).append (.of_plain (by decide))).append
      (keyword.append (base.inert_quoted (.inr rfl)))
  have free : '=' ∉ quoted '\'' name.text ++ ", __name__, ".toList := by
    simp (disch := decide) [quoted, name.not_mem]
  have edge : wordAt (lastOr none (quoted '\'' name.text ++ ", __name__, ".toList)) ≠
      wordAt ("url_prefix".toList ++ ['=']).head? := by
    rw [lastOr_append]
    have blank : ∀ before, lastOr before ", __name__, ".toList = some ' ' := fun _ => rfl
    rw [blank]
    decide
  exact keywordAt?_eq_some here rest inert
    (partIn?_keywordPattern (.inr rfl) base _ (by decide) (by decide) free edge)

theorem keywordAt?_of_mem_rest {item : Item} {line : Text} (member : line ∈ item.rest) :
    keywordAt? blueprintPattern basePattern ⟨above, line, below⟩ = none := by
  rcases Item.of_mem_rest member with ⟨name, rfl | rfl⟩ | rfl | rfl
  · exact keywordAt?_functionLine _ false name
  · exact keywordAt?_header name "self" (by decide) (by decide)
  · exact keywordAt?_of_not_mem (by decide)
  · exact keywordAt?_of_not_mem (by decide)

theorem keywordAt?_first (item : Item) :
    keywordAt? blueprintPattern basePattern ⟨above, item.first, below⟩ = item.base? := by
  cases item with
  | function route methods name => exact keywordAt?_routeLine route methods
  | resource name methods => exact keywordAt?_header name "Resource" (by decide) (by decide)
  | registration name route => exact keywordAt?_registrationLine name route
  | blueprint name base => exact keywordAt?_blueprintLine name base

theorem baseOf_lines (items : List Item) :
    baseOf (items.flatMap Item.lines) = ((items.findSome? Item.base?).map Route.base).getD [] := by
  rw [baseOf, constructorKeyword?_items]
  intro item above below
  refine item.gives_first (fun line member above below => ?_) (congrArg _ (keywordAt?_first item))
  rw [keywordAt?_of_mem_rest member]
  rfl

end Blueprints

section Resources

variable {below : List Text}

theorem mem_of_passes_verbPattern {name : Identifier} {stop : Cursor}
    (passes : verbPattern.Passes ⟨none, Item.methodLine name⟩ stop) :
    name.text ∈ servedMethods.map Prod.fst := by
  simp only [verbPattern, blanks, passes_seq, passes_capture, passes_many, passes_text] at passes
  obtain ⟨_, ⟨⟨last, after⟩, ⟨_, lead, verb⟩, rfl⟩, more, paren, _⟩ := passes
  have indent : "    ".toList.all isBlank := by decide
  have rest := rest_of_passes_defPattern indent (fun c first => name.head_not_blank _ first) lead
  obtain ⟨word, member, spelled⟩ := verb.of_anyOf
  have gap : after.takeWhile isBlank ++ '(' :: more = after := by
    rw [← show after.dropWhile isBlank = '(' :: more from paren, List.takeWhile_append_dropWhile]
  have same : name.text ++ '(' :: "self):".toList =
      (word ++ after.takeWhile isBlank) ++ '(' :: more := by
    rw [List.append_assoc, gap]
    exact rest.symm.trans spelled
  have words : ∀ word ∈ servedMethods.map Prod.fst, '(' ∉ word := by decide
  have clear : '(' ∉ word ++ after.takeWhile isBlank := by
    simp [words word member, not_mem_takeWhile (show isBlank '(' = false by decide)]
  obtain ⟨whole, _⟩ := Text.append_cons_inj (name.not_mem (by decide)) clear same
  -- a name holds no blanks, so that it is the whole word
  have empty : after.takeWhile isBlank = [] := by
    refine List.eq_nil_iff_forall_not_mem.mpr fun c inside => ?_
    have solid := name.solid c (by simp [whole, inside])
    rw [List.all_eq_true.mp List.all_takeWhile c inside] at solid
    cases solid
  rw [whole, empty, List.append_nil]
  exact member

theorem partAtStart?_methodLine (name : Identifier) :
    (verbPattern.partAtStart? 1 (Item.methodLine name)).map Method.ofToken = served? name := by
  by_cases listed : name.text ∈ servedMethods.map Prod.fst
  · have each : ∀ word ∈ servedMethods.map Prod.fst,
        (verbPattern.partAtStart? 1 ("    def ".toList ++ (word ++ "(self):".toList))).map
          Method.ofToken = servedMethods.lookup word := by
      decide
    exact each name.text listed
  · have unserved : served? name = none := by
      rw [served?, List.lookup_eq_none_iff]
      intro pair member
      simp only [bne_iff_ne, ne_eq]
      exact fun same => listed (same ▸ List.mem_map_of_mem member)
    have nowhere : verbPattern.runs ⟨none, Item.methodLine name⟩ = [] :=
      runs_eq_nil fun stop passes => listed (mem_of_passes_verbPattern passes)
    rw [partAtStart?, atStart?, at?, nowhere, unserved]
    rfl

/-- What follows a class starts at the margin, unless the module ends. -/
def Flush (below : List Text) : Prop :=
  ∀ line, below.head? = some line → isRemark (Text.trim line) = false ∧ indentOf line = 0

theorem flush_of_head {line : Text} {c : Char} (first : line.head? = some c) (solid : isBlank c = false)
    (other : c ≠ '#') : Flush (line :: below) := by
  rintro _ ⟨⟩
  cases line with
  | nil => cases first
  | cons d rest =>
    cases first
    have start : Text.trimStart (c :: rest) = c :: rest := by simp [Text.trimStart, solid]
    refine ⟨isRemark_eq_false (by rw [start]; rfl) other, ?_⟩
    simp [indentOf, solid, Text.byteSize]

theorem flush_lines (item : Item) (below : List Text) : Flush (item.lines ++ below) := by
  cases item with
  | function route methods name => exact flush_of_head (c := '@') rfl (by decide) (by decide)
  | resource name methods => exact flush_of_head (c := 'c') rfl (by decide) (by decide)
  | registration name route => exact flush_of_head (c := 'a') rfl (by decide) (by decide)
  | blueprint name base => exact flush_of_head (c := 'b') rfl (by decide) (by decide)

theorem bodyMethods_flush (flush : Flush below) (found : List Method) :
    bodyMethods 0 found below = found := by
  cases below with
  | nil => rfl
  | cons line below =>
    obtain ⟨code, margin⟩ := flush line rfl
    simp [bodyMethods, code, margin]

theorem bodyMethods_cons {line : Text} (code : isRemark (Text.trim line) = false)
    (deep : indentOf line ≠ 0) (found : List Method) :
    bodyMethods 0 found (line :: below) = bodyMethods 0
      (((verbPattern.partAtStart? 1 line).map Method.ofToken).toList.foldl addMethod found) below := by
  rw [bodyMethods, if_neg (by rw [code]; decide), if_neg (by omega)]
  cases verbPattern.partAtStart? 1 line <;> rfl

theorem bodyMethods_passLine (found : List Method) :
    bodyMethods 0 found (passLine :: below) = bodyMethods 0 found below := by
  have silent : verbPattern.partAtStart? 1 passLine = none := by decide
  rw [bodyMethods_cons (by decide) (by decide), silent]
  rfl

theorem bodyMethods_methodLine (found : List Method) (name : Identifier) :
    bodyMethods 0 found (Item.methodLine name :: Item.methodBody :: below) =
      bodyMethods 0 ((served? name).toList.foldl addMethod found) below := by
  have code : isRemark (Text.trim (Item.methodLine name)) = false :=
    isRemark_eq_false (c := 'd') rfl (by decide)
  have four : indentOf (Item.methodLine name) = 4 := rfl
  have silent : verbPattern.partAtStart? 1 Item.methodBody = none := by decide
  rw [bodyMethods_cons code (by omega), partAtStart?_methodLine,
    bodyMethods_cons (by decide) (by decide), silent]
  rfl

theorem bodyMethods_methods (flush : Flush below) (methods : List Identifier) (found : List Method) :
    bodyMethods 0 found
      ((methods.flatMap fun method => [Item.methodLine method, Item.methodBody]) ++ below) =
        (methods.filterMap served?).foldl addMethod found := by
  induction methods generalizing found with
  | nil => exact bodyMethods_flush flush found
  | cons method methods ih =>
    rw [List.flatMap_cons, List.append_assoc]
    refine (bodyMethods_methodLine found method).trans ((ih _).trans ?_)
    cases verb : served? method <;> simp [verb]

theorem bodyMethods_rest (name : Identifier) (methods : List Identifier) (flush : Flush below) :
    bodyMethods 0 [] ((Item.resource name methods).rest ++ below) =
      (methods.filterMap served?).eraseDups := by
  cases methods with
  | nil => exact (bodyMethods_passLine []).trans (bodyMethods_flush flush [])
  | cons method methods =>
    have served := bodyMethods_methods flush (method :: methods) []
    have distinct := foldl_addMethod [] ((method :: methods).filterMap served?)
    exact served.trans distinct

theorem className?_of_mem_rest {item : Item} {line : Text} (member : line ∈ item.rest) :
    Indented.className? line = none := by
  rcases Item.of_mem_rest member with ⟨name, rfl | rfl⟩ | rfl | rfl
  · exact className?_functionLine false name
  · exact className?_eq_none (c := 'd') rfl (by decide)
  · exact className?_passLine
  · exact className?_eq_none (c := 'p') rfl (by decide)

theorem resourceAt?_first (item : Item) (above : List Text) (flush : Flush below) :
    resourceAt? ⟨above, item.first, item.rest ++ below⟩ = item.known? := by
  cases item with
  | function route methods name =>
    have classless : Indented.className? (Item.routeLine route methods) = none :=
      className?_eq_none (c := '@') rfl (by decide)
    rw [resourceAt?, Item.first, classless]
    rfl
  | resource name methods =>
    have named : Indented.className? (Item.resourceLine name) = some name.text :=
      className?_eq_some name (by rintro c ⟨⟩; decide)
    have margin : indentOf (Item.resourceLine name) = 0 := rfl
    rw [resourceAt?, Item.first, named, margin, bodyMethods_rest name methods flush]
    rfl
  | registration name route =>
    have classless : Indented.className? (Item.registrationLine name route) = none :=
      className?_eq_none (c := 'a') rfl (by decide)
    rw [resourceAt?, Item.first, classless]
    rfl
  | blueprint name base =>
    have classless : Indented.className? (Item.blueprintLine name base) = none :=
      className?_eq_none (c := 'b') rfl (by decide)
    rw [resourceAt?, Item.first, classless]
    rfl

theorem gives_resources (item : Item) (above : List Text) (flush : Flush below) :
    Place.Gives (fun place => (resourceAt? place).toList) above item.lines below
      item.known?.toList := by
  refine item.gives_first (fun line member above below => ?_)
    (congrArg _ (resourceAt?_first item above flush))
  rw [resourceAt?, className?_of_mem_rest member]
  rfl

theorem resources_lines (items : List Item) :
    resources (items.flatMap Item.lines) = (items.filterMap Item.known?).reverse := by
  have flush : Flush [] := by rintro line ⟨⟩
  have gives : Place.Gives (fun place => (resourceAt? place).toList) [] (items.flatMap Item.lines) []
      (items.flatMap fun item => item.known?.toList) :=
    .flatMap Flush flush_lines (fun item above _ => gives_resources item above) items flush
  rw [resources, List.filterMap_eq_flatMap_toList, gives.flatMap_all,
    ← List.filterMap_eq_flatMap_toList]

end Resources

section Lines

variable {file : Path} {base : Text} {known : List (Text × List Method)} {above below : List Text}

theorem endpointsAt_eq_nil {line : Text} (free : '.' ∉ line) :
    endpointsAt file base known ⟨above, line, below⟩ = [] := by
  have resource : Needs '.' addResourcePattern := .left (.text (by decide))
  have decorator : Needs '.' routeDecoratorPattern := .left (.right (.text (by decide)))
  have rule : Needs '.' addRulePattern := .left (.text (by decide))
  unfold endpointsAt
  split
  · rfl
  · rw [resource.find?_eq_none free, decorator.atStart?_eq_none free, rule.find?_eq_none free]

theorem find?_addResourcePattern_routeLine (route : Fragment) (methods : List Identifier) :
    addResourcePattern.find? (Item.routeLine route methods) = none := by
  refine find?_eq_none fun left right same => runs_eq_nil fun stop passes => ?_
  obtain ⟨_, word, _⟩ := passes_seq.mp passes
  obtain ⟨more, found, _⟩ := passes_text.mp word
  have dotless : '.' ∉ "route".toList ++ '(' :: (Item.routeArguments route methods ++ [')']) := by
    simp (disch := decide) [not_mem_routeArguments]
  have split : "@app".toList ++ '.' :: ("route".toList ++
      '(' :: (Item.routeArguments route methods ++ [')'])) =
        left ++ '.' :: ("add_resource".toList ++ more) := by
    rw [show right = ".add_resource".toList ++ more from found] at same
    exact same
  obtain ⟨_, rest⟩ := Text.append_cons_inj_single (by decide) dotless split
  have letters : some 'r' = some 'a' := congrArg List.head? rest
  exact absurd letters (by decide)

theorem exists_atStart?_routeLine (rest : Text) : ∃ found,
    routeDecoratorPattern.atStart? ("@app.route".toList ++ '(' :: rest) = some found ∧
      found.rest = '(' :: rest := by
  have stops : ∀ c, ('(' :: rest).head? = some c → isDotted c = false := by
    rintro c ⟨⟩
    decide
  have fails : ∀ left c right, ".route".toList = left ++ c :: right → ∀ last,
      (text ".route").runs ⟨last, right ++ '(' :: rest⟩ = [] := by
    intro left c right split last
    refine runs_eq_nil fun stop passes => ?_
    obtain ⟨more, found, _⟩ := passes_text.mp passes
    cases right with
    | nil =>
      have letters : some '(' = some '.' := congrArg List.head? found
      exact absurd letters (by decide)
    | cons d right =>
      -- a second dot would have to stand inside the word
      obtain rfl : d = '.' := Option.some.inj (congrArg List.head? found)
      have dots : ([] : Text) ++ '.' :: "route".toList = (left ++ [c]) ++ '.' :: right := by
        simpa using split
      obtain ⟨empty, _⟩ := Text.append_cons_inj_single (by simp) (by decide) dots
      simp at empty
  have lead : Reads (blanks ++ text "@" ++ .one isDotted) none ([] ++ ['@'] ++ ['a'])
      ("pp".toList ++ ".route".toList ++ '(' :: rest) ([] ++ [] ++ []) := by
    refine .seq (.seq (.many (by simp) ?_) (.text _)) (.one (by decide))
    rintro c ⟨⟩
    decide
  have name : Reads (.upToMany isDotted ++ text ".route") (lastOr none ([] ++ ['@'] ++ ['a']))
      ("pp".toList ++ ".route".toList) ('(' :: rest) [] :=
    .upToMany (List.all_eq_true.mp (by decide)) stops (.text _) fails
  have read : Reads routeDecoratorPattern none
      ([] ++ ['@'] ++ ['a'] ++ ("pp".toList ++ ".route".toList) ++ []) ('(' :: rest)
      ([] ++ [] ++ [] ++ [] ++ []) :=
    .seq (.assoc (.seq lead name)) (.boundary (show wordAt (some 'e') ≠ wordAt (some '(') by decide))
  obtain ⟨found, here, stop, _⟩ := read.at?
  exact ⟨found, here, stop⟩

theorem endpointsAt_routeLine (route : Fragment) (methods : List Identifier) (name : Identifier) :
    endpointsAt file base known ⟨above, Item.routeLine route methods,
      functionLine false name :: below⟩ =
        (Item.function route methods name).endpoints file base known above.length := by
  obtain ⟨found, start, rest⟩ :=
    exists_atStart?_routeLine (Item.routeArguments route methods ++ [')'])
  have call : Call.read? ([] ++ '(' :: (Item.routeArguments route methods ++ ')' :: []))
      (functionLine false name :: below) = some ⟨Item.routeArguments route methods, 0, []⟩ :=
    Call.read?_eq_some (by simp) (inert_routeArguments route methods)
  rw [List.nil_append, ← rest] at call
  have literal : routeLiteral? (Item.routeArguments route methods) = some route.text :=
    routeLiteral?_quoted (.inr rfl) route _ (not_assigns_routeArguments route methods)
  have outside := enclosingClass?_margin (functionLine false name :: below)
    (show indentOf (Item.routeLine route methods) = 0 from rfl) above
  have code : ((Text.trimStart (Item.routeLine route methods)).head? == some '#') = false := rfl
  rw [endpointsAt, code, find?_addResourcePattern_routeLine]
  simp only [Bool.false_eq_true, if_false]
  rw [show routeDecoratorPattern.atStart? (Item.routeLine route methods) = some found from start]
  simp [routeEndpoints, call, literal, outside, declaredMethods_routeArguments,
    handlerBelow_function, Item.endpoints, Place.number]

theorem exists_resourceArguments (name : Identifier) (route : Fragment) : ∃ pair,
    resourceArgumentsPattern.atStart? (Item.registrationArguments name route) = some pair ∧
      pair.part? 1 = some name.text ∧ pair.part? 2 = some route.text := by
  have dotted : ∀ c ∈ name.text, isDotted c := fun c member => by simp [isDotted, name.word c member]
  have read : Reads resourceArgumentsPattern none
      ([] ++ name.text ++ [] ++ [','] ++ [' '] ++ quoted '\'' route.text) []
      ([] ++ [(1, name.text)] ++ [] ++ [] ++ [] ++ [(2, route.text)]) := by
    refine .seq (.seq (.seq (.seq (.seq (.many (by simp) ?_)
      (.capture 1 (.many1 name.filled dotted ?_))) (.many (by simp) ?_)) (.text _))
      (.many (List.all_eq_true.mp (by decide)) ?_)) (reads_literalPattern (.inr rfl) route [] 2)
    · exact fun c first => name.head_not_blank _ first
    all_goals
      rintro c ⟨⟩
      decide
  obtain ⟨pair, here, _, noted⟩ := read.at?
  refine ⟨pair, ?_, noted 1, noted 2⟩
  have pieces : Item.registrationArguments name route =
      [] ++ name.text ++ [] ++ [','] ++ [' '] ++ quoted '\'' route.text ++ [] := by
    unfold Item.registrationArguments
    simp
  rw [pieces]
  exact here

theorem endpointsAt_registrationLine (name : Identifier) (route : Fragment) :
    endpointsAt file base known ⟨above, Item.registrationLine name route, below⟩ =
      (Item.registration name route).endpoints file base known above.length := by
  have found : Reads addResourcePattern (lastOr none "api".toList) (".add_resource".toList ++ [])
      ('(' :: (Item.registrationArguments name route ++ [')'])) ([] ++ []) :=
    .seq (.text _) (.boundary (show wordAt (some 'e') ≠ wordAt (some '(') by decide))
  have starts : ∀ place stop, addResourcePattern.Passes place stop → place.rest.head? = some '.' := by
    intro place stop passes
    obtain ⟨_, word, _⟩ := passes_seq.mp passes
    obtain ⟨more, same, _⟩ := passes_text.mp word
    rw [same]
    rfl
  obtain ⟨found, here, rest, _⟩ := found.find?_of_letter (by decide) starts
  have call : Call.read? ([] ++ '(' :: (Item.registrationArguments name route ++ ')' :: [])) below =
      some ⟨Item.registrationArguments name route, 0, []⟩ :=
    Call.read?_eq_some (by simp) (inert_registrationArguments route name)
  rw [List.nil_append, ← rest] at call
  obtain ⟨pair, start, named, routed⟩ := exists_resourceArguments name route
  have simple : Text.afterLast '.' name.text = name.text :=
    Text.afterLast_eq_self (name.not_mem (by decide))
  have code : ((Text.trimStart (Item.registrationLine name route)).head? == some '#') = false := rfl
  rw [endpointsAt, code]
  simp only [Bool.false_eq_true, if_false]
  rw [show addResourcePattern.find? (Item.registrationLine name route) = some found from here]
  simp [resourceEndpoints, call, start, named, routed, simple, methodsOf_eq, Item.endpoints, Place.number]

end Lines

section Run

variable (file : Path) (base : Text) (known : List (Text × List Method)) (above below : List Text)

theorem dot_not_mem_rest {item : Item} {line : Text} (member : line ∈ item.rest) : '.' ∉ line := by
  rcases Item.of_mem_rest member with ⟨name, rfl | rfl⟩ | rfl | rfl
  · exact not_mem_functionLine false name (by decide) (by decide)
  · unfold Item.methodLine
    simp (disch := decide) [name.not_mem]
  · decide
  · decide

theorem gives_item (item : Item) : Place.Gives (endpointsAt file base known) above item.lines below
    (item.endpoints file base known above.length) := by
  refine item.gives_first (fun line member above below => endpointsAt_eq_nil (dot_not_mem_rest member)) ?_
  cases item with
  | function route methods name => exact endpointsAt_routeLine route methods name
  | resource name methods =>
    have dotless : '.' ∉ Item.resourceLine name := by
      unfold Item.resourceLine
      simp (disch := decide) [name.not_mem]
    exact endpointsAt_eq_nil dotless
  | registration name route => exact endpointsAt_registrationLine name route
  | blueprint name base =>
    have dotless : '.' ∉ Item.blueprintLine name base := by
      unfold Item.blueprintLine Item.blueprintArguments
      simp (disch := decide) [quoted, name.not_mem, base.not_mem]
    exact endpointsAt_eq_nil dotless

theorem gives_items (items : List Item) :
    Place.Gives (endpointsAt file base known) above (items.flatMap Item.lines) below
      (endpointsFrom file base known above.length items) := by
  induction items generalizing above with
  | nil => exact .nil
  | cons item items ih =>
    have next := ih (item.lines.reverse ++ above)
    have number : (item.lines.reverse ++ above).length = above.length + item.lines.length := by
      simp [Nat.add_comm]
    rw [number] at next
    exact (gives_item file base known above (items.flatMap Item.lines ++ below) item).append next

theorem endpointsAt_congr {base other : Text}
    (same : ∀ route, Route.compose [base, route] = Route.compose [other, route]) :
    endpointsAt file base known = endpointsAt file other known := by
  funext place
  simp only [endpointsAt, resourceEndpoints, routeEndpoints, same]

end Run

/-- A module has the endpoints of its decorated functions and of its registrations. A class is known by
what the last class of its name serves. -/
theorem extract_registrations {file : Path} {content : Text} {items : List Item}
    (spelled : Text.lines content = items.flatMap Item.lines) :
    extract file content = endpointsFrom file ((items.findSome? Item.base?).getD [])
      (items.filterMap Item.known?).reverse 0 items := by
  have base := endpointsAt_congr file (items.filterMap Item.known?).reverse
    (Route.compose_base_getD (items.findSome? Item.base?))
  have gives := gives_items file ((items.findSome? Item.base?).getD [])
    (items.filterMap Item.known?).reverse [] [] items
  rw [extract, spelled]
  simp only [baseOf_lines, resources_lines, base]
  exact gives.flatMap_all

def registeredResources : List Item :=
  [.registration ⟨"Store", .refl true, .refl true⟩ ⟨"/stores/<id>", .refl true⟩,
    .function ⟨"/a", .refl true⟩ [] ⟨"index", .refl true, .refl true⟩,
    .function ⟨"b", .refl true⟩ [⟨"GET", .refl true, .refl true⟩, ⟨"post", .refl true, .refl true⟩,
      ⟨"Get", .refl true, .refl true⟩, ⟨"PURGE", .refl true, .refl true⟩]
      ⟨"edit", .refl true, .refl true⟩,
    .blueprint ⟨"shop", .refl true, .refl true⟩ ⟨"/v1/", .refl true⟩,
    .resource ⟨"Store", .refl true, .refl true⟩ [⟨"get", .refl true, .refl true⟩,
      ⟨"getter", .refl true, .refl true⟩, ⟨"delete", .refl true, .refl true⟩,
      ⟨"get", .refl true, .refl true⟩],
    .registration ⟨"Ghost", .refl true, .refl true⟩ ⟨"g", .refl true⟩]

theorem extract_registrations_of_registeredResources :
    extract ⟨"app.py"⟩ (Text.join ['\n'] (registeredResources.flatMap Item.lines)) =
      [⟨"/v1/stores/<id>", .get, ⟨⟨"app.py"⟩, 0⟩, "Store", "get", some .flaskRestful⟩,
        ⟨"/v1/stores/<id>", .delete, ⟨⟨"app.py"⟩, 0⟩, "Store", "delete", some .flaskRestful⟩,
        ⟨"/v1/a", .get, ⟨⟨"app.py"⟩, 1⟩, "main", "index", some .flask⟩,
        ⟨"/v1/b", .get, ⟨⟨"app.py"⟩, 4⟩, "main", "edit", some .flask⟩,
        ⟨"/v1/b", .post, ⟨⟨"app.py"⟩, 4⟩, "main", "edit", some .flask⟩,
        ⟨"/v1/b", .unknown, ⟨⟨"app.py"⟩, 4⟩, "main", "edit", some .flask⟩,
        ⟨"/v1/g", .get, ⟨⟨"app.py"⟩, 17⟩, "Ghost", "get", some .flaskRestful⟩] := by
  have spelled : Text.lines (Text.join ['\n'] (registeredResources.flatMap Item.lines)) =
      registeredResources.flatMap Item.lines := by
    decide +kernel
  rw [extract_registrations spelled]
  decide +kernel

end RouteAtlas.Flask
