import Cypher.Proofs.AlikeDrafts
import Cypher.Proofs.GivenNames
import Cypher.Proofs.TidyDrafts

/-!
# Names stay in their places

A statement is a row of places: texts that no name has a part in, and names in
between. Whatever a name is, it is one token in its place, so the statements of
two queries that differ in names have the same tokens but for those names. The
names of the caller are those that its clauses give, in order.
-/

namespace Cypher

open Lexing

/-- The same token, or two names. -/
def Lexing.SameToken (token token' : List Char) : Prop :=
  Kind.of token = Kind.of token' ∧ (Kind.of token ≠ .name → token = token')

/-- What stands in a statement. -/
inductive Place
  /-- Keywords, punctuation and texts of the caller up to the next name. -/
  | text (run : List Char)
  /-- A name of the caller. -/
  | given (name : String)
  /-- An allocated identifier. -/
  | identifier (name : String)
  /-- A reference to an allocated parameter. -/
  | reference (name : String)

namespace Place

/-- The name of the caller that stands here. -/
def given? : Place → Option String
  | given name => some name
  | text _ | identifier _ | reference _ => none

/-- The tokens of a place. -/
def tokens : Place → List (List Char)
  | text run => Lexing.tokens run
  | given name => [Name.written name.toList]
  | identifier name => [Name.written name.toList]
  | reference name => [['$'], Name.written name.toList]

/-- The token is the name: it is of that kind, and without quotes it is the name itself, or what
the name quotes. -/
def Spells (name : String) (token : List Char) : Prop :=
  Kind.of token = .name ∧ Name.read token = Name.read name.toList

/-- The tokens are those of the place, and a name is one of them. -/
def Reads : Place → List (List Char) → Prop
  | text run, found => found = Lexing.tokens run
  | given name, found => ∃ token, found = [token] ∧ Spells name token
  | identifier name, found => ∃ token, found = [token] ∧ Spells name token
  | reference name, found => ∃ token, found = [['$'], token] ∧ Spells name token

/-- The same text, or two names of the same role. -/
inductive Alike : Place → Place → Prop
  | text (run : List Char) : Alike (.text run) (.text run)
  | given (name name' : String) : Alike (.given name) (.given name')
  | identifier (name name' : String) : Alike (.identifier name) (.identifier name')
  | reference (name name' : String) : Alike (.reference name) (.reference name')

theorem spells_written (name : String) : Spells name (Name.written name.toList) :=
  ⟨Kind.of_written _, read_written _⟩

theorem reads_tokens (place : Place) : place.Reads place.tokens := by
  cases place with
  | text run => rfl
  | given name => exact ⟨_, rfl, spells_written name⟩
  | identifier name => exact ⟨_, rfl, spells_written name⟩
  | reference name => exact ⟨_, rfl, spells_written name⟩

theorem sameToken_rfl (token : List Char) : SameToken token token := ⟨rfl, fun _ => rfl⟩

theorem sameToken_written (name name' : List Char) :
    SameToken (Name.written name) (Name.written name') := by
  refine ⟨?_, fun other => absurd (Kind.of_written name) other⟩
  rw [Kind.of_written, Kind.of_written]

theorem Alike.tokens {place place' : Place} (alike : place.Alike place') :
    List.Forall₂ SameToken place.tokens place'.tokens := by
  cases alike with
  | text run => exact List.forall₂_same.mpr fun token _ => sameToken_rfl token
  | given name name' => exact .cons (sameToken_written _ _) .nil
  | identifier name name' => exact .cons (sameToken_written _ _) .nil
  | reference name name' =>
    exact .cons (sameToken_rfl ['$']) (.cons (sameToken_written _ _) .nil)

end Place

namespace Fragment

mutual

/-- The places of a fragment behind a text. -/
def placesFrom (run : List Char) : List (Piece String) → List Place
  | [] => [.text run]
  | .fixed text :: rest => placesFrom (run ++ text.toList) rest
  | .raw text :: rest => placesFrom (run ++ text.toList) rest
  | .name given :: rest => .text run :: .given given :: placesFrom [] rest
  | .identifier ref :: rest => .text run :: .identifier ref :: placesFrom [] rest
  | .parameter ref :: rest => .text run :: .reference ref :: placesFrom [] rest
  | .body fragments :: rest => .text run :: (allPlaces fragments ++ placesFrom [] rest)

/-- The places of fragments, in order. -/
def allPlaces : List (List (Piece String)) → List Place
  | [] => []
  | fragment :: rest => placesFrom [] fragment ++ allPlaces rest

end

theorem visible_written_cons (name : List Char) (rest : List (List Char)) :
    visible (Name.written name :: rest) = Name.written name :: visible rest := by
  rw [visible, visible, List.filter_cons_of_pos]
  simp [Kind.of_written]

mutual

/-- A fragment has the tokens of its places. -/
theorem visible_lexemesFrom (run : List Char) (fragment : List (Piece String)) :
    visible (lexemesFrom run fragment) = (placesFrom run fragment).flatMap Place.tokens := by
  cases fragment with
  | nil => simp [lexemesFrom, placesFrom, Place.tokens, Lexing.tokens]
  | cons piece rest =>
    have behind := visible_lexemesFrom [] rest
    cases piece with
    | fixed text =>
      rw [lexemesFrom, placesFrom]
      exact visible_lexemesFrom _ rest
    | raw text =>
      rw [lexemesFrom, placesFrom]
      exact visible_lexemesFrom _ rest
    | name given =>
      rw [lexemesFrom, placesFrom, visible_append, visible_written_cons, behind]
      rfl
    | identifier ref =>
      rw [lexemesFrom, placesFrom, visible_append, visible_written_cons, behind]
      rfl
    | parameter ref =>
      have dollar (more : List (List Char)) : visible (['$'] :: more) = ['$'] :: visible more := rfl
      rw [lexemesFrom, placesFrom, visible_append, dollar, visible_written_cons, behind]
      rfl
    | body fragments =>
      rw [lexemesFrom, placesFrom, visible_append, visible_append, visible_allLexemes, behind,
        List.flatMap_cons, List.flatMap_append]
      rfl

theorem visible_allLexemes (begun : Bool) (fragments : List (List (Piece String))) :
    visible (Spacing.squeezeAll begun (allLexemes fragments)) =
      (allPlaces fragments).flatMap Place.tokens := by
  cases fragments with
  | nil => simp [allLexemes, allPlaces, Spacing.squeezeAll, visible]
  | cons fragment rest =>
    rw [allLexemes, Spacing.squeezeAll, visible_append, Spacing.visible_squeeze,
      visible_lexemesFrom [] fragment, visible_allLexemes _ rest, allPlaces, List.flatMap_append]

end

mutual

theorem places_alike {name ref : String → String → Prop} (run : List Char)
    {fragment fragment' : List (Piece String)}
    (alike : List.Forall₂ (Piece.Alike name ref) fragment fragment') :
    List.Forall₂ Place.Alike (placesFrom run fragment) (placesFrom run fragment') := by
  cases fragment with
  | nil =>
    cases alike
    rw [placesFrom]
    exact .cons (.text run) .nil
  | cons piece rest =>
    cases alike with
    | cons first others =>
      have behind := places_alike [] others
      -- fixed and raw text is the same in both, so both runs grow by it
      cases piece with
      | body fragments =>
        cases first with
        | body inside =>
          rw [placesFrom, placesFrom]
          exact .cons (.text run) (List.rel_append (allPlaces_alike inside) behind)
      | fixed text =>
        cases first
        rw [placesFrom, placesFrom]
        exact places_alike _ others
      | raw text =>
        cases first
        rw [placesFrom, placesFrom]
        exact places_alike _ others
      | name given =>
        cases first
        rw [placesFrom, placesFrom]
        exact .cons (.text run) (.cons (.given _ _) behind)
      | identifier answer =>
        cases first
        rw [placesFrom, placesFrom]
        exact .cons (.text run) (.cons (.identifier _ _) behind)
      | parameter answer =>
        cases first
        rw [placesFrom, placesFrom]
        exact .cons (.text run) (.cons (.reference _ _) behind)

theorem allPlaces_alike {name ref : String → String → Prop}
    {fragments fragments' : List (List (Piece String))}
    (alike : List.Forall₂ (List.Forall₂ (Piece.Alike name ref)) fragments fragments') :
    List.Forall₂ Place.Alike (allPlaces fragments) (allPlaces fragments') := by
  cases fragments with
  | nil =>
    cases alike
    rw [allPlaces]
    exact .nil
  | cons fragment rest =>
    cases alike with
    | cons first others =>
      rw [allPlaces, allPlaces]
      exact List.rel_append (places_alike [] first) (allPlaces_alike others)

end

mutual

/-- The names of the caller stand in the places of a fragment. -/
theorem given_placesFrom (run : List Char) (fragment : List (Piece String)) :
    (placesFrom run fragment).filterMap Place.given? = givenNames fragment := by
  cases fragment with
  | nil => simp [placesFrom, Place.given?]
  | cons piece rest =>
    have behind := given_placesFrom [] rest
    cases piece with
    | fixed text => simpa [placesFrom] using given_placesFrom (run ++ text.toList) rest
    | raw text => simpa [placesFrom] using given_placesFrom (run ++ text.toList) rest
    | body fragments =>
      simp [placesFrom, List.filterMap_cons, Place.given?, given_allPlaces fragments, behind]
    | _ => simp [placesFrom, List.filterMap_cons, Place.given?, behind]

theorem given_allPlaces (fragments : List (List (Piece String))) :
    (allPlaces fragments).filterMap Place.given? = allGivenNames fragments := by
  cases fragments with
  | nil => simp [allPlaces, allGivenNames]
  | cons fragment rest =>
    rw [allPlaces, allGivenNames, List.filterMap_append, given_placesFrom [] fragment,
      given_allPlaces rest]

end

/-- The tokens of a statement of tidy fragments are those of its places. -/
theorem tokens_joined {fragments : List (List (Piece String))}
    (tidy : AllTidy (fun text => Balanced text.toList) fragments) :
    tokens (Spacing.joined (allChars fragments)) = (allPlaces fragments).flatMap Place.tokens := by
  rw [tokens, lexemes_joined_allChars tidy, visible_allLexemes]

end Fragment

/-! ## Queries that differ in names -/

/-- Names and values are any, and what is written already is what its clause becomes. -/
def Likeness.nameless : Likeness where
  name := fun _ _ => True
  value := fun _ _ => True
  count := fun _ _ => True
  home := fun _ _ => True
  cached := fun entry entry' => Rendered entry ∧ Rendered entry'
  before := fun _ _ => True
  answer := fun _ _ => True
  same := fun _ => trivial
  page := fun _ => trivial
  parameter := fun _ _ _ => ⟨trivial, trivial⟩
  identifier := fun _ _ => ⟨trivial, trivial⟩

theorem fill_alike {fragment fragment' : Fragment Ref}
    (alike : Likeness.nameless.text fragment fragment') (names names' : List String) :
    Fragment.Alike Likeness.nameless.name Likeness.nameless.name (Fragment.fill names fragment)
      (Fragment.fill names' fragment') :=
  Fragment.alike_map (fun _ _ _ => trivial) alike

theorem Likeness.keeps_nameless : Likeness.nameless.Keeps := by
  rintro entry entry' ⟨⟨asked, names, same⟩, ⟨asked', names', same'⟩⟩ drafts
  rw [same, same']
  exact fill_alike (drafts asked asked' trivial).1 names names'

theorem both_of_forall₂ {α β : Type} {here : α → Prop} {there : β → Prop} {first : List α}
    {second : List β} (pairs : List.Forall₂ (fun item item' => here item ∧ there item') first second) :
    (∀ item ∈ first, here item) ∧ ∀ item ∈ second, there item := by
  induction pairs with
  | nil => exact ⟨nofun, nofun⟩
  | cons pair _ ih =>
    rw [List.forall_mem_cons, List.forall_mem_cons]
    exact ⟨⟨pair.1, ih.1⟩, pair.2, ih.2⟩

theorem Body.Alike.genuine {body body' : Body Clause} (alike : body.Alike .nameless body')
    (each : ∀ inner ∈ Query.clauses body, ∀ inner', inner.Alike .nameless inner' →
      inner.Genuine ∧ inner'.Genuine) :
    Query.Genuine body ∧ Query.Genuine body' := by
  cases alike with
  | @mk written written' pending pending' _ _ clauses cached later _ =>
    obtain ⟨rendered, rendered'⟩ := both_of_forall₂ cached
    have all := (List.forall₂_and_left _ _).mpr ⟨each, List.rel_append clauses later⟩
    obtain ⟨genuine, genuine'⟩ := both_of_forall₂ (all.imp fun _ _ both => both.1 _ both.2)
    exact ⟨⟨rendered, genuine⟩, ⟨rendered', genuine'⟩⟩

theorem Clause.Alike.genuine {clause clause' : Clause} (alike : clause.Alike .nameless clause') :
    clause.Genuine ∧ clause'.Genuine := by
  induction clause using Clause.induction generalizing clause' with
  | plain clause noBody =>
    refine ⟨.plain noBody, .plain ?_⟩
    cases alike <;> first | rfl | cases noBody
  | nested clause body nested ih =>
    have both {inner inner' : Body Clause} (related : inner.Alike .nameless inner')
        (same : body = inner) : Query.Genuine inner ∧ Query.Genuine inner' :=
      related.genuine fun clause member _ => ih clause (same ▸ member)
    cases alike with
    | forEach list named related =>
      obtain ⟨genuine, genuine'⟩ := both related (Option.some.inj nested).symm
      exact ⟨.nested rfl genuine.written genuine.clauses,
        .nested rfl genuine'.written genuine'.clauses⟩
    | call related =>
      obtain ⟨genuine, genuine'⟩ := both related (Option.some.inj nested).symm
      exact ⟨.nested rfl genuine.written genuine.clauses,
        .nested rfl genuine'.written genuine'.clauses⟩
    | _ => cases nested

/-! ## Statements -/

/-- The places of what is written. -/
def Query.places (query : Query) : List Place := Fragment.allPlaces query.fragments

/-- The tokens of the statement are those of its places one by one, each name one token. -/
def Query.Spelled (query : Query) : Prop :=
  ∃ groups, tokens query.text.toList = groups.flatten ∧
    List.Forall₂ Place.Reads query.places groups

/-- What is written of a genuine query is spelled, when the texts of the caller are balanced. -/
theorem Query.Genuine.spelled {query done : Query} {allocator after : Allocator}
    (genuine : query.Genuine) (raw : ∀ text ∈ Clause.rawTextsBody query, Balanced text.toList)
    (written : query.write allocator = .ok (done, after)) :
    done.Spelled ∧ tokens done.text.toList = done.places.flatMap Place.tokens := by
  rw [Clause.rawTextsBody_eq, ← Query.clauses_write written, ← Clause.rawTextsBody_eq] at raw
  have spelled : tokens done.text.toList = done.places.flatMap Place.tokens := by
    rw [Query.text, String.toList_ofList, Fragment.tokens_joined ((genuine.write written).tidy raw)]
    rfl
  refine ⟨⟨done.places.map Place.tokens, spelled, ?_⟩, spelled⟩
  rw [List.forall₂_map_right_iff]
  exact List.forall₂_same.mpr fun place _ => place.reads_tokens

/-- The fragments of what is written and of what is settled are alike. -/
theorem settled_alike {written written' : List (Clause × Fragment String)}
    {pending pending' : List Clause}
    (clauses : List.Forall₂ (Clause.Alike .nameless) (written.map Prod.fst) (written'.map Prod.fst))
    (cached : List.Forall₂ Likeness.nameless.cached written written')
    (later : List.Forall₂ (Clause.Alike .nameless) pending pending')
    (allocator allocator' : Allocator) :
    List.Forall₂ (Fragment.Alike Likeness.nameless.name Likeness.nameless.name)
      (written.map Prod.snd ++ (settle Query.fillAll (Clause.askAll pending) allocator).1)
      (written'.map Prod.snd ++ (settle Query.fillAll (Clause.askAll pending') allocator').1) := by
  have keeps := Likeness.keeps_nameless
  obtain ⟨drafts, _⟩ := Clause.drafts_askAll keeps later [] [] trivial
  rw [List.forall₂_map_left_iff, List.forall₂_map_right_iff] at clauses
  refine List.rel_append ?_ ?_
  · rw [List.forall₂_map_left_iff, List.forall₂_map_right_iff]
    exact List.Forall₂.mp (fun _ _ related kept => keeps _ _ kept (Clause.drafts_ask keeps related))
      clauses cached
  -- the allocators need not agree, as granted names are not compared
  · rw [settle_eq, settle_eq, Query.fillAll, Query.fillAll, List.forall₂_map_left_iff,
      List.forall₂_map_right_iff]
    exact drafts.imp fun _ _ related => fill_alike related _ _

theorem Query.places_write {first second done done' : Query}
    {allocator allocator' after after' : Allocator} (alike : Body.Alike .nameless first second)
    (written : first.write allocator = .ok (done, after))
    (written' : second.write allocator' = .ok (done', after')) :
    List.Forall₂ Place.Alike done.places done'.places := by
  obtain ⟨_, rfl, rfl⟩ := Query.write_eq_ok written
  obtain ⟨_, rfl, rfl⟩ := Query.write_eq_ok written'
  cases alike with
  | mk clauses cached later _ =>
    have fragments := settled_alike clauses cached later allocator allocator'
    rw [← Query.fragments_settled, ← Query.fragments_settled] at fragments
    exact Fragment.allPlaces_alike fragments

/-- The names of the caller in the statement of a genuine query are those of its clauses. -/
theorem Query.Genuine.given_places {query done : Query} {allocator after : Allocator}
    (genuine : query.Genuine) (written : query.write allocator = .ok (done, after)) :
    done.places.filterMap Place.given? = query.givenNames := by
  rw [Query.places, Fragment.given_allPlaces]
  exact genuine.allGivenNames written

/-- Two queries that differ in names and values only, both written: their statements have the same
tokens but for names. In each of them every name is one token that stands for it, and the names of
the caller are those that its clauses give, one after the other. -/
theorem Query.tokens_alike {first second done done' : Query}
    {allocator allocator' after after' : Allocator} (alike : Body.Alike .nameless first second)
    (raw : ∀ text ∈ Clause.rawTextsBody first, Balanced text.toList)
    (raw' : ∀ text ∈ Clause.rawTextsBody second, Balanced text.toList)
    (written : first.write allocator = .ok (done, after))
    (written' : second.write allocator' = .ok (done', after')) :
    List.Forall₂ SameToken (tokens done.text.toList) (tokens done'.text.toList) ∧
      List.Forall₂ Place.Alike done.places done'.places ∧ done.Spelled ∧ done'.Spelled ∧
      done.places.filterMap Place.given? = first.givenNames ∧
      done'.places.filterMap Place.given? = second.givenNames := by
  obtain ⟨genuine, genuine'⟩ := alike.genuine fun _ _ _ => Clause.Alike.genuine
  obtain ⟨spelled, whole⟩ := genuine.spelled raw written
  obtain ⟨spelled', whole'⟩ := genuine'.spelled raw' written'
  have places := Query.places_write alike written written'
  refine ⟨?_, places, spelled, spelled', genuine.given_places written,
    genuine'.given_places written'⟩
  rw [whole, whole']
  exact List.rel_flatMap places fun _ _ => Place.Alike.tokens

/-- A node with an identifier, a label and a property, and text of the caller behind it. -/
def labelledNode (identifier label property : String) : Query :=
  ⟨[], [.pattern .find (.node (.pattern ⟨some identifier, some (.all [label]),
    .properties (.ofList [(property, .value (.bool true))])⟩)), .raw "RETURN 'it'"], 0⟩

/-- The tokens of its statement, by those of the names. -/
def labelledTokens (identifier label property : String) : List (List Char) :=
  ["MATCH".toList, ['('], identifier.toList, [':'], label.toList, ['{'], property.toList, [':'],
    ['$'], property.toList, ['}'], [')'], "RETURN".toList, "'it'".toList]

/-- A name that is quoted already, a backtick alone, and a name with quotes, a bracket and a dollar
sign are one token each, as plain names are. -/
theorem Query.tokens_alike_labelledNode :
    ∃ done done' after after', (labelledNode "n" "A" "x").write .empty = .ok (done, after) ∧
      (labelledNode "`a b`" "`" "') $y").write .empty = .ok (done', after') ∧
      List.Forall₂ SameToken (tokens done.text.toList) (tokens done'.text.toList) ∧
      done.Spelled ∧ done'.Spelled ∧
      tokens done.text.toList = labelledTokens "n" "A" "x" ∧
      tokens done'.text.toList = labelledTokens "`a b`" "````" "`') $y`" ∧
      done.places.filterMap Place.given? = ["n", "A", "x"] ∧
      done'.places.filterMap Place.given? = ["`a b`", "`", "') $y"] := by
  have alike (identifier label property identifier' label' property' : String) :
      Body.Alike .nameless (labelledNode identifier label property)
        (labelledNode identifier' label' property') := by
    have labels : Label.Alike .nameless (.all [label]) (.all [label']) := .all (.cons trivial .nil)
    have properties : Properties.Alike .nameless (.ofList [(property, .value (.bool true))])
        (.ofList [(property', .value (.bool true))]) :=
      .cons ⟨trivial, .value trivial⟩ .nil
    refine .mk .nil .nil (.cons (.pattern .find (.node (.pattern ?_))) (.cons (.raw _) .nil)) trivial
    exact ⟨.some trivial, .some labels, .properties properties⟩
  have raw (identifier label property : String) : ∀ text ∈ Clause.rawTextsBody
      (labelledNode identifier label property), Balanced text.toList := by
    have texts : Clause.rawTextsBody (labelledNode identifier label property) = ["RETURN 'it'"] := by
      simp [labelledNode, Clause.rawTextsBody, Clause.rawTextsWritten, Clause.rawTextsAll,
        Clause.rawTexts, Pattern.rawTexts, Node.rawTexts, Label.rawTexts, Filter.rawTexts,
        Properties.rawTexts, OrderedMap.ofList, OrderedMap.insertAll, setEntry, Operand.rawTexts]
    rw [texts]
    decide
  have write (identifier label property : String) :
      ∃ done after, (labelledNode identifier label property).write .empty = .ok (done, after) :=
    Query.exists_write rfl .empty
  have plain : ((labelledNode "n" "A" "x").write .empty).toOption.map
      (fun done => tokens done.1.text.toList) = some (labelledTokens "n" "A" "x") := by
    decide +kernel
  have odd : ((labelledNode "`a b`" "`" "') $y").write .empty).toOption.map
      (fun done => tokens done.1.text.toList) = some (labelledTokens "`a b`" "````" "`') $y`") := by
    decide +kernel
  obtain ⟨done, after, written⟩ := write "n" "A" "x"
  obtain ⟨done', after', written'⟩ := write "`a b`" "`" "') $y"
  obtain ⟨same, _, spelled, spelled', given, given'⟩ :=
    Query.tokens_alike (alike _ _ _ _ _ _) (raw _ _ _) (raw _ _ _) written written'
  rw [written] at plain
  rw [written'] at odd
  exact ⟨done, done', after, after', written, written', same, spelled, spelled',
    Option.some.inj plain, Option.some.inj odd, given, given'⟩

end Cypher
