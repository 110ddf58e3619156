import RouteAtlas.Extract.FastApi
import RouteAtlas.Proofs.Code.Indented
import RouteAtlas.Proofs.Route

namespace RouteAtlas.FastApi

open Pattern Indented

section Cases

theorem relates_toLower (relates : Char → Char → Prop) (same : ∀ c, relates c c)
    (small : ∀ code < 128, relates (Char.ofNat code).toLower (Char.ofNat code)) (c : Char) :
    relates c.toLower c := by
  by_cases first : c.toNat < 128
  · simpa using small c.toNat first
  · have capital : ¬ (c.val ≥ 'A'.val ∧ c.val ≤ 'Z'.val) := by
      rintro ⟨_, last⟩
      have bound : c.toNat ≤ 90 := UInt32.le_iff_toNat_le.mp last
      omega
    have kept : c.toLower = c := dif_neg capital
    rw [kept]
    exact same c

theorem isWord_toLower (c : Char) : isWord c.toLower = isWord c :=
  relates_toLower (fun lower c => isWord lower = isWord c) (fun _ => rfl) (by decide +kernel) c

theorem toUpper_toLower (c : Char) : c.toLower.toUpper = c.toUpper :=
  relates_toLower (fun lower c => lower.toUpper = c.toUpper) (fun _ => rfl) (by decide +kernel) c

theorem sameLetter_eq {letter c : Char} (plain : c.toLower.toNat < 128) :
    sameLetter letter c = (c.toLower == letter) := by
  have long : (c == 'ſ') = false := by
    refine beq_false_of_ne ?_
    rintro rfl
    revert plain
    decide
  have kelvin : (c == '\u212A') = false := by
    refine beq_false_of_ne ?_
    rintro rfl
    revert plain
    decide
  simp [sameLetter, long, kelvin]

variable {before : Option Char} {taken rest : Text}

theorem reads_anyCase (plain : ∀ c ∈ Text.lowerBasic taken, c.toNat < 128) :
    Reads (anyCase (Text.lowerBasic taken)) before taken rest [] := by
  induction taken generalizing before with
  | nil => exact .nothing
  | cons c taken ih =>
    simp only [Text.lowerBasic, List.map_cons, List.forall_mem_cons] at plain
    have letter : sameLetter c.toLower c := by simp [sameLetter_eq plain.1]
    exact Reads.seq (.one letter) (ih plain.2)

theorem runs_anyCase_eq_nil {other : Text} (plain : ∀ c ∈ Text.lowerBasic taken, c.toNat < 128)
    (shorter : ¬ other <+: Text.lowerBasic taken) (longer : ¬ Text.lowerBasic taken <+: other) :
    (anyCase other).runs ⟨before, taken ++ rest⟩ = [] := by
  induction other generalizing before taken with
  | nil => exact absurd List.nil_prefix shorter
  | cons letter other ih =>
    cases taken with
    | nil => exact absurd List.nil_prefix longer
    | cons c taken =>
      simp only [Text.lowerBasic, List.map_cons, List.forall_mem_cons, List.cons_prefix_cons,
        not_and] at plain shorter longer
      have step : anyCase (letter :: other) = .one (sameLetter letter) ++ anyCase other := rfl
      rw [step, runs_seq, List.cons_append, runs_one_cons, sameLetter_eq plain.1]
      by_cases same : c.toLower = letter
      · have later : (anyCase other).runs ⟨some c, taken ++ rest⟩ = [] :=
          ih plain.2 (shorter same.symm) (longer same)
        simp [same, later]
      · simp [same]

/-- Of several words the one that can be read is read. -/
theorem reads_choice {words : List Text} {word : Text} {read : Text → Pattern} {parts : List (Nat × Text)}
    (member : word ∈ words) (here : Reads (read word) before taken rest parts)
    (others : ∀ other ∈ words, other ≠ word → (read other).runs ⟨before, taken ++ rest⟩ = []) :
    Reads (choice (words.map read)) before taken rest parts := by
  induction words with
  | nil => cases member
  | cons first words ih =>
    by_cases same : first = word
    · subst same
      cases words with
      | nil => exact here
      | cons next words => exact here.left
    · have later : word ∈ words := by simpa [Ne.symm same] using member
      have failed := others first List.mem_cons_self same
      have rest := ih later fun other among => others other (List.mem_cons_of_mem first among)
      cases words with
      | nil => cases later
      | cons next words => exact .right failed rest

end Cases

inductive Action where
  | get
  | post
  | put
  | delete
  | patch
  | head
  | options
  | trace

namespace Action

def word : Action → Text
  | .get => "get"
  | .post => "post"
  | .put => "put"
  | .delete => "delete"
  | .patch => "patch"
  | .head => "head"
  | .options => "options"
  | .trace => "trace"

def method : Action → Method
  | .get => .get
  | .post => .post
  | .put => .put
  | .delete => .delete
  | .patch => .patch
  | .head => .unknown
  | .options => .unknown
  | .trace => .unknown

theorem word_mem (action : Action) : action.word ∈ verbs := by
  cases action <;> decide

theorem ofToken_word (action : Action) : Method.ofToken action.word = action.method := by
  cases action <;> decide

end Action

structure Verb where
  action : Action
  text : Text
  spelled : Text.lowerBasic text = action.word

namespace Verb

variable (verb : Verb)

theorem word : ∀ c ∈ verb.text, isWord c := by
  intro c member
  have words : ∀ word ∈ verbs, word.all isWord := by decide
  have lower : c.toLower ∈ verb.action.word := by
    rw [← verb.spelled]
    exact List.mem_map_of_mem member
  rw [← isWord_toLower]
  exact List.all_eq_true.mp (words _ verb.action.word_mem) _ lower

theorem filled : verb.text ≠ [] := by
  intro empty
  have words : ∀ word ∈ verbs, word ≠ [] := by decide
  refine words _ verb.action.word_mem ?_
  rw [← verb.spelled, empty]
  rfl

theorem not_mem {c : Char} (other : isWord c = false) : c ∉ verb.text :=
  not_mem_of_accepted verb.word other

theorem ofToken_text : Method.ofToken verb.text = verb.action.method := by
  have solid : ∀ c ∈ verb.text, isBlank c = false := fun c member =>
    not_blank_of_isWord (verb.word c member)
  have trimmed : Text.trim verb.text = verb.text :=
    Text.trim_eq_self (fun c first => solid c (List.mem_of_head? first))
      fun c last => solid c (List.mem_of_getLast? last)
  have same : Text.upperBasic verb.text = Text.upperBasic (Text.trim verb.action.word) := by
    have words : ∀ word ∈ verbs, Text.trim word = word := by decide
    rw [words _ verb.action.word_mem, ← verb.spelled]
    rw [Text.upperBasic, Text.upperBasic, Text.lowerBasic, List.map_map]
    exact List.map_congr_left fun c _ => (toUpper_toLower c).symm
  rw [← verb.action.ofToken_word, Method.ofToken, trimmed, same]
  rfl

theorem reads {before : Option Char} {rest : Text} : Reads verbPattern before verb.text rest [] := by
  have plain : ∀ word ∈ verbs, word.all fun c => c.toNat < 128 := by decide
  have apart : ∀ word ∈ verbs, ∀ other ∈ verbs, other ≠ word →
      ¬ other <+: word ∧ ¬ word <+: other := by decide
  have small : ∀ c ∈ Text.lowerBasic verb.text, c.toNat < 128 := by
    rw [verb.spelled]
    simpa using plain _ verb.action.word_mem
  have here : Reads (anyCase verb.action.word) before verb.text rest [] := by
    rw [← verb.spelled]
    exact reads_anyCase small
  refine reads_choice verb.action.word_mem here fun other member differs => ?_
  obtain ⟨shorter, longer⟩ := apart _ verb.action.word_mem other member differs
  rw [← verb.spelled] at shorter longer
  exact runs_anyCase_eq_nil small shorter longer

end Verb

inductive Decorator where
  | route (receiver : Identifier) (verb : Verb) (fragment : Fragment)
  | plain (name : Identifier)

def Decorator.text : Decorator → Text
  | .route receiver verb fragment =>
    '@' :: (receiver.text ++ '.' :: verb.text ++ '(' :: (quoted '"' fragment.text ++ [')']))
  | .plain name => '@' :: name.text

def Decorator.endpoints (file : Path) (base owner : Text) (handler : Identifier) (line : Nat) :
    Decorator → List Endpoint
  | .route _ verb fragment => [⟨Route.compose [base, fragment.text], verb.action.method,
      ⟨file, line⟩, owner, handler.text, some .fastApi⟩]
  | .plain _ => []

inductive Item where
  | function (decorators : List Decorator) (isAsync : Bool) (name : Identifier)
  | block (name : Identifier)
  | router (base : Fragment)

namespace Item

def blockLine (name : Identifier) : Text := "class ".toList ++ (name.text ++ [':'])

def routerArguments (base : Fragment) : Text := "prefix".toList ++ '=' :: quoted '"' base.text

def routerLine (base : Fragment) : Text :=
  "router = APIRouter".toList ++ '(' :: (routerArguments base ++ [')'])

def lines : Item → List Text
  | .function decorators isAsync name =>
    decorators.map Decorator.text ++ [functionLine isAsync name, passLine]
  | .block name => [blockLine name, passLine]
  | .router base => [routerLine base]

def base? : Item → Option Text
  | .router base => some base.text
  | _ => none

def owner (above : Text) : Item → Text
  | .block name => name.text
  | _ => above

def endpoints (file : Path) (base owner : Text) (line : Nat) : Item → List Endpoint
  | .function decorators _ name => (decorators.zipIdx line).flatMap fun (decorator, line) =>
      decorator.endpoints file base owner name line
  | _ => []

end Item

/-- The endpoints of items, each for the class above it and the number of its first line. -/
def endpointsFrom (file : Path) (base owner : Text) (line : Nat) : List Item → List Endpoint
  | [] => []
  | item :: items => item.endpoints file base owner line ++
      endpointsFrom file base (item.owner owner) (line + item.lines.length) items

theorem Item.not_mem_blockLine (name : Identifier) {c : Char} (other : isWord c = false)
    (listed : c ∉ "class :".toList) : c ∉ blockLine name := by
  unfold blockLine
  simp only [String.reduceToList, List.mem_cons, List.not_mem_nil, not_or, List.mem_append] at listed ⊢
  simp [name.not_mem other, listed]

section Routers

theorem keywordAt?_decorator (decorator : Decorator) (above below : List Text) :
    keywordAt? routerPattern basePattern ⟨above, decorator.text, below⟩ = none := by
  cases decorator with
  | plain name =>
    refine keywordAt?_of_not_mem ?_
    simp (disch := decide) [Decorator.text, name.not_mem]
  | route receiver verb route =>
    have front : '(' ∉ '@' :: (receiver.text ++ '.' :: verb.text) := by
      simp (disch := decide) [receiver.not_mem, verb.not_mem]
    have back : '(' ∉ quoted '"' route.text ++ ')' :: [] := by
      simp (disch := decide) [quoted, route.not_mem]
    have signless : '=' ∉ quoted '"' route.text := by
      simp (disch := decide) [quoted, route.not_mem]
    exact keywordAt?_of_call _ front back (route.inert_quoted (.inl rfl))
      (not_assigns_of_not_mem signless)

theorem keywordAt?_routerLine (base : Fragment) (above below : List Text) :
    keywordAt? routerPattern basePattern ⟨above, Item.routerLine base, below⟩ = some base.text := by
  obtain ⟨found, here, rest⟩ : ∃ found, routerPattern.find? (Item.routerLine base) = some found ∧
      found.rest = '(' :: (Item.routerArguments base ++ [')']) :=
    exists_find?_constructor "router = ".toList (by decide) (by decide) (by decide) _
  have inert : Inert (Item.routerArguments base) := by
    have lead : Inert "prefix=".toList := .of_plain (by decide)
    exact lead.append (base.inert_quoted (.inl rfl))
  have valued : basePattern.partIn? 1 (Item.routerArguments base) = some base.text :=
    partIn?_keywordPattern (.inl rfl) base [] (by decide) (by decide) (by decide) (by decide)
  exact keywordAt?_eq_some here rest inert valued

theorem baseOf_lines (items : List Item) :
    baseOf (items.flatMap Item.lines) = ((items.findSome? Item.base?).map Route.base).getD [] := by
  rw [baseOf, constructorKeyword?_items]
  intro item above below
  cases item with
  | function decorators isAsync name =>
    refine gives_no_keyword fun line member above below => ?_
    simp only [Item.lines, List.mem_append, List.mem_map, List.mem_cons, List.not_mem_nil,
      or_false] at member
    rcases member with ⟨decorator, _, rfl⟩ | rfl | rfl
    · exact keywordAt?_decorator decorator above below
    · exact keywordAt?_functionLine _ isAsync name
    · exact keywordAt?_of_not_mem (by decide)
  | block name =>
    refine gives_no_keyword fun line member above below => ?_
    simp only [Item.lines, List.mem_cons, List.not_mem_nil, or_false] at member
    rcases member with rfl | rfl
    · exact keywordAt?_of_not_mem (Item.not_mem_blockLine name (by decide) (by decide))
    · exact keywordAt?_of_not_mem (by decide)
  | router base => exact .single (congrArg Option.toList (keywordAt?_routerLine base above below))

end Routers

section Lines

variable {file : Path} {base : Text} {above below : List Text}

theorem endpointAt?_eq_none {line : Text} (free : '.' ∉ line) :
    endpointAt? file base ⟨above, line, below⟩ = none := by
  have needs : Needs '.' decoratorPattern := .left (.left (.right (.text (by decide))))
  simp [endpointAt?, needs.atStart?_eq_none free]

theorem endpointAt?_route (receiver : Identifier) (verb : Verb) (fragment : Fragment) :
    endpointAt? file base ⟨above, (Decorator.route receiver verb fragment).text, below⟩ =
      some ⟨Route.compose [base, fragment.text], verb.action.method, ⟨file, above.length⟩,
        (nearestClass? above).getD Endpoint.defaultOwner, handlerBelow 0 below, some .fastApi⟩ := by
  have dotStops : ∀ rest : Text, ∀ c, ('.' :: rest).head? = some c → isWord c = false := by
    rintro rest c ⟨⟩
    decide
  have read : Reads decoratorPattern none ([] ++ ['@'] ++ receiver.text ++ ['.'] ++ verb.text ++ [])
      ('(' :: (quoted '"' fragment.text ++ [')'])) ([] ++ [] ++ [] ++ [] ++ [(1, verb.text)] ++ []) := by
    refine .seq (.seq (.seq (.seq (.seq (.many (by simp) ?_) (.text _))
      (.many1 receiver.filled receiver.word (dotStops _))) (.text _)) (.capture 1 verb.reads))
      (.boundary ?_)
    · rintro c ⟨⟩
      decide
    · have ended := wordAt_lastOr_word (lastOr none ([] ++ ['@'] ++ receiver.text ++ ['.'])) verb.filled
        verb.word
      rw [lastOr_append, ended]
      exact Bool.noConfusion
  have pieces : (Decorator.route receiver verb fragment).text =
      [] ++ ['@'] ++ receiver.text ++ ['.'] ++ verb.text ++ [] ++
        '(' :: (quoted '"' fragment.text ++ [')']) := by
    simp [Decorator.text]
  obtain ⟨found, here, rest, noted⟩ := read.at?
  have start : decoratorPattern.atStart? (Decorator.route receiver verb fragment).text = some found := by
    rw [pieces]
    exact here
  have part : found.part? 1 = some verb.text := noted 1
  have call : Call.read? ([] ++ '(' :: (quoted '"' fragment.text ++ ')' :: [])) below =
      some ⟨quoted '"' fragment.text, 0, []⟩ :=
    Call.read?_eq_some (by simp) (fragment.inert_quoted (.inl rfl))
  rw [List.nil_append, ← rest] at call
  have signless : '=' ∉ quoted '"' fragment.text := by
    simp (disch := decide) [quoted, fragment.not_mem]
  have route := routeLiteral?_quoted (.inl rfl) fragment [] (by
    rw [List.append_nil]
    exact not_assigns_of_not_mem signless)
  rw [List.append_nil] at route
  simp [endpointAt?, start, part, call, route, verb.ofToken_text, Place.number]

theorem handlerBelow_decorators (decorators : List Decorator) (isAsync : Bool) (name : Identifier) :
    handlerBelow 0 (decorators.map Decorator.text ++ functionLine isAsync name :: below) =
      name.text := by
  induction decorators with
  | nil => exact handlerBelow_function below isAsync name
  | cons decorator decorators ih =>
    rw [← ih, List.map_cons, List.cons_append]
    cases decorator with
    | plain deco =>
      have dotted : ∀ c ∈ deco.text, isDotted c := fun c member => by
        simp [isDotted, deco.word c member]
      exact (handlerBelow_decorator _ deco.filled dotted .nil).1
    | route receiver verb fragment =>
      have dotted : ∀ c ∈ receiver.text ++ '.' :: verb.text, isDotted c := by
        intro c member
        simp only [List.mem_append, List.mem_cons] at member
        rcases member with word | rfl | word
        · simp [isDotted, receiver.word c word]
        · decide
        · simp [isDotted, verb.word c word]
      exact (handlerBelow_decorator _ (by simp) dotted (fragment.inert_quoted (.inl rfl))).2

end Lines

section Owners

variable {above lines : List Text}

theorem className?_decorator (decorator : Decorator) : Indented.className? decorator.text = none := by
  cases decorator with
  | plain name => exact className?_eq_none (c := '@') rfl (by decide)
  | route receiver verb fragment => exact className?_eq_none (c := '@') rfl (by decide)

theorem nearestClass?_append (classless : ∀ line ∈ lines, Indented.className? line = none) :
    nearestClass? (lines.reverse ++ above) = nearestClass? above := by
  have nothing : lines.reverse.findSome? Indented.className? = none := by
    rw [List.findSome?_eq_none_iff]
    exact fun line member => classless line (List.mem_reverse.mp member)
  rw [nearestClass?, List.findSome?_append, nothing]
  rfl

theorem nearestClass?_item (item : Item) :
    (nearestClass? (item.lines.reverse ++ above)).getD Endpoint.defaultOwner =
      item.owner ((nearestClass? above).getD Endpoint.defaultOwner) := by
  cases item with
  | function decorators isAsync name =>
    rw [nearestClass?_append]
    · rfl
    · intro line member
      simp only [Item.lines, List.mem_append, List.mem_map, List.mem_cons, List.not_mem_nil,
        or_false] at member
      rcases member with ⟨decorator, _, rfl⟩ | rfl | rfl
      · exact className?_decorator decorator
      · exact className?_functionLine isAsync name
      · exact className?_passLine
  | block name =>
    have header : Indented.className? (Item.blockLine name) = some name.text :=
      className?_eq_some name (by rintro c ⟨⟩; decide)
    simp [Item.lines, nearestClass?, className?_passLine, header, Item.owner]
  | router base =>
    have router : Indented.className? (Item.routerLine base) = none :=
      className?_eq_none (c := 'r') rfl (by decide)
    simp [Item.lines, nearestClass?, router, Item.owner]

end Owners

section Run

variable (file : Path) (base : Text) (above below : List Text)

def endpointsAt (file : Path) (base : Text) (place : Place) : List Endpoint :=
  (endpointAt? file base place).toList

theorem gives_decorators (decorators : List Decorator) (isAsync : Bool) (name : Identifier)
    {owner : Text} (owned : (nearestClass? above).getD Endpoint.defaultOwner = owner) :
    Place.Gives (endpointsAt file base) above (decorators.map Decorator.text)
      (functionLine isAsync name :: below)
      ((decorators.zipIdx above.length).flatMap fun (decorator, line) =>
        decorator.endpoints file base owner name line) := by
  induction decorators generalizing above with
  | nil => exact .nil
  | cons decorator decorators ih =>
    have here : endpointsAt file base ⟨above, decorator.text,
        decorators.map Decorator.text ++ functionLine isAsync name :: below⟩ =
          decorator.endpoints file base owner name above.length := by
      cases decorator with
      | plain deco =>
        have free : '.' ∉ (Decorator.plain deco).text := by
          simp (disch := decide) [Decorator.text, deco.not_mem]
        rw [endpointsAt, endpointAt?_eq_none free]
        rfl
      | route receiver verb fragment =>
        rw [endpointsAt, endpointAt?_route, handlerBelow_decorators, owned]
        rfl
    -- no decorator is the header of a class, so that the whole stack has one owner
    have still : (nearestClass? (decorator.text :: above)).getD Endpoint.defaultOwner = owner := by
      rw [← owned, nearestClass?, List.findSome?_cons, className?_decorator]
      rfl
    exact (Place.Gives.single here).append (ih (decorator.text :: above) still)

theorem gives_item (item : Item) {owner : Text}
    (owned : (nearestClass? above).getD Endpoint.defaultOwner = owner) :
    Place.Gives (endpointsAt file base) above item.lines below
      (item.endpoints file base owner above.length) := by
  have quiet : ∀ line : Text, '.' ∉ line → ∀ above below,
      endpointsAt file base ⟨above, line, below⟩ = [] := by
    intro line free above below
    rw [endpointsAt, endpointAt?_eq_none free]
    rfl
  have pass : '.' ∉ passLine := by decide
  cases item with
  | function decorators isAsync name =>
    have header : '.' ∉ functionLine isAsync name :=
      not_mem_functionLine isAsync name (by decide) (by decide)
    have stacked := gives_decorators file base above (passLine :: below) decorators isAsync name
      owned
    have body : Place.Gives (endpointsAt file base) ((decorators.map Decorator.text).reverse ++ above)
        [functionLine isAsync name, passLine] below [] := by
      refine .none fun line member => quiet line ?_
      simp only [List.mem_cons, List.not_mem_nil, or_false] at member
      rcases member with rfl | rfl
      · exact header
      · exact pass
    have both := stacked.append body
    rw [List.append_nil] at both
    exact both
  | block name =>
    refine .none fun line member => quiet line ?_
    simp only [Item.lines, List.mem_cons, List.not_mem_nil, or_false] at member
    rcases member with rfl | rfl
    · exact Item.not_mem_blockLine name (by decide) (by decide)
    · exact pass
  | router front =>
    refine .single (quiet _ ?_ above below)
    unfold Item.routerLine Item.routerArguments
    simp (disch := decide) [quoted, front.not_mem]

theorem gives_items (items : List Item) {owner : Text}
    (owned : (nearestClass? above).getD Endpoint.defaultOwner = owner) :
    Place.Gives (endpointsAt file base) above (items.flatMap Item.lines) below
      (endpointsFrom file base owner above.length items) := by
  induction items generalizing above owner with
  | nil => exact .nil
  | cons item items ih =>
    have next := ih (item.lines.reverse ++ above) (nearestClass?_item item)
    have number : (item.lines.reverse ++ above).length = above.length + item.lines.length := by
      simp [Nat.add_comm]
    rw [number, owned] at next
    exact (gives_item file base above (items.flatMap Item.lines ++ below) item owned).append next

theorem endpointAt?_congr {base other : Text}
    (same : ∀ route, Route.compose [base, route] = Route.compose [other, route]) :
    endpointAt? file base = endpointAt? file other := by
  funext place
  simp only [endpointAt?, same]

end Run

/-- A module of decorated functions has the endpoints of their route decorators. -/
theorem extract_decorated {file : Path} {content : Text} {items : List Item}
    (spelled : Text.lines content = items.flatMap Item.lines) :
    extract file content =
      endpointsFrom file ((items.findSome? Item.base?).getD []) Endpoint.defaultOwner 0 items := by
  have base := endpointAt?_congr file (Route.compose_base_getD (items.findSome? Item.base?))
  have outside : (nearestClass? []).getD Endpoint.defaultOwner = Endpoint.defaultOwner := rfl
  have gives := gives_items file ((items.findSome? Item.base?).getD []) [] [] items outside
  rw [extract, spelled]
  simp only [baseOf_lines, base]
  rw [List.filterMap_eq_flatMap_toList]
  exact gives.flatMap_all

def stackedRoutes : List Item :=
  [.function [.plain ⟨"cached", by decide, by decide⟩,
      .route ⟨"app", by decide, by decide⟩ ⟨.get, "GeT", by decide⟩ ⟨"/a//", by decide⟩,
      .route ⟨"router", by decide, by decide⟩ ⟨.trace, "trace", by decide⟩
        ⟨"a/\x7bid\x7d", by decide⟩,
      .plain ⟨"logged", by decide, by decide⟩] true ⟨"show", by decide, by decide⟩,
    .block ⟨"Store", by decide, by decide⟩,
    .router ⟨"/v1", by decide⟩,
    .function [.route ⟨"APIRouter", by decide, by decide⟩ ⟨.delete, "DELETE", by decide⟩
      ⟨"", by decide⟩] false ⟨"clear", by decide, by decide⟩]

theorem extract_decorated_of_stackedRoutes :
    extract ⟨"main.py"⟩ (Text.join ['\n'] (stackedRoutes.flatMap Item.lines)) =
      [⟨"/v1/a", .get, ⟨⟨"main.py"⟩, 1⟩, "main", "show", some .fastApi⟩,
        ⟨"/v1/a/\x7bid\x7d", .unknown, ⟨⟨"main.py"⟩, 2⟩, "main", "show", some .fastApi⟩,
        ⟨"/v1", .delete, ⟨⟨"main.py"⟩, 9⟩, "Store", "clear", some .fastApi⟩] := by
  have spelled : Text.lines (Text.join ['\n'] (stackedRoutes.flatMap Item.lines)) =
      stackedRoutes.flatMap Item.lines := by
    decide +kernel
  rw [extract_decorated spelled]
  decide +kernel

end RouteAtlas.FastApi
