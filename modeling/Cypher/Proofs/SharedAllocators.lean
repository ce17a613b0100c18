import Cypher.Proofs.Backing
import Cypher.Proofs.CompiledReferences
import Cypher.Proofs.Incremental
import Mathlib.Logic.Function.Basic

/-!
# Queries that share allocators

Queries are begun, copied, put into each other and written in any order, some of
them with one allocator, and some statements fail. A ledger is kept beside them
of the values that each query was given. As long as no parameter is given up,
every reference that a query has written is to a parameter of its allocator that
has the value which stands in the ledger at its place, and so is every reference
of a condition that was bound before.
-/

namespace Cypher

open Fragment (Keyed reference allParameters)
open Lexing (lexemes references)

/-- What was given to queries, by name, in the order in which it is written; and to conditions
that were bound and kept, with the allocator that they were bound through. -/
structure Ledger where
  given : String → List Value
  kept : String → Option (AllocatorId × List Value)

namespace Ledger

def blank : Ledger := ⟨fun _ => [], fun _ => none⟩

def give (ledger : Ledger) (name : String) (values : List Value) : Ledger :=
  { ledger with given := Function.update ledger.given name values }

def add (ledger : Ledger) (name : String) (values : List Value) : Ledger :=
  ledger.give name (ledger.given name ++ values)

/-- What a step gives to the query of that name, which binds through that allocator. -/
def record (ledger : Ledger) (name : String) (home : AllocatorId) : Step → Ledger
  | .create _ => ledger.give name []
  | .share _ => ledger.give name []
  | .copy source => ledger.give name (ledger.given source)
  | .addPayload payload =>
      ledger.add name (((Query.Move.payload payload).clauses home).flatMap Clause.values)
  | .addText text =>
      ledger.add name (((Query.Move.text text).clauses home).flatMap Clause.values)
  | .add clause => ledger.add name clause.values
  | .addLoop _ _ body => ledger.add name (ledger.given body)
  | .addCall body => ledger.add name (ledger.given body)
  | .bindCriteria criteria kept =>
      { ledger with kept := Function.update ledger.kept kept (some (home, criteria.values)) }
  | .addBound kept => ledger.add name (((ledger.kept kept).map Prod.snd).getD [])
  | _ => ledger

theorem given_give_self (ledger : Ledger) (name : String) (values : List Value) :
    (ledger.give name values).given name = values :=
  Function.update_self ..

theorem given_give_of_ne (ledger : Ledger) {name other : String} (values : List Value)
    (different : other ≠ name) : (ledger.give name values).given other = ledger.given other :=
  Function.update_of_ne different ..

theorem give_given (ledger : Ledger) (name : String) :
    ledger.give name (ledger.given name) = ledger := by
  rw [give, Function.update_eq_self]

theorem add_nil (ledger : Ledger) (name : String) : ledger.add name [] = ledger := by
  rw [add, List.append_nil, give_given]

end Ledger

/-- No parameter is given up, what is bound in a clause was bound as the step of a query, and a
bound condition goes to a query with the allocator that it was bound through. -/
def Step.Sound (ledger : Ledger) (home : AllocatorId) : Step → Prop
  | .release _ => False
  | .add clause => clause.Fresh
  | .addBound kept => ∀ entry ∈ ledger.kept kept, entry.1 = home
  | _ => True

namespace OrderedMap

variable {α : Type}

theorem get?_insert_self (map : OrderedMap α) (name : String) (value : α) :
    (map.insert name value).get? name = some value :=
  findNamed?_setEntry name value _

theorem get?_insert_of_ne (map : OrderedMap α) {name other : String} (value : α)
    (different : other ≠ name) : (map.insert name value).get? other = map.get? other := by
  unfold get?
  rw [entries_insert]
  induction map.entries with
  | nil => simp [setEntry, findNamed?, Ne.symm different]
  | cons entry rest ih =>
    rw [setEntry]
    split
    · next same => simp [findNamed?, same, Ne.symm different]
    · rw [findNamed?, findNamed?, ih]

end OrderedMap

namespace Workspace

/-! ## Workspaces that grow -/

/-- There are as many allocators or more, and each keeps what it holds. -/
structure Grows (first second : Workspace) : Prop where
  more : first.allocators.length ≤ second.allocators.length
  keeps : ∀ id, (first.allocator id).Keeps (second.allocator id)

theorem Grows.refl (workspace : Workspace) : workspace.Grows workspace :=
  ⟨Nat.le_refl _, fun _ => .refl _⟩

theorem allocator_setAllocator {workspace : Workspace} {id : AllocatorId} (allocator : Allocator)
    (present : id < workspace.allocators.length) :
    (workspace.setAllocator id allocator).allocator id = allocator := by
  simp [Workspace.allocator, setAllocator, present]

theorem allocator_setAllocator_of_ne {workspace : Workspace} {id other : AllocatorId}
    (allocator : Allocator) (different : id ≠ other) :
    (workspace.setAllocator id allocator).allocator other = workspace.allocator other := by
  simp [Workspace.allocator, setAllocator, List.getElem?_set_ne different]

theorem grows_setAllocator {workspace : Workspace} {id : AllocatorId} {after : Allocator}
    (keeps : (workspace.allocator id).Keeps after) :
    workspace.Grows (workspace.setAllocator id after) := by
  refine ⟨by simp [setAllocator], fun other => ?_⟩
  by_cases same : id = other
  · subst same
    by_cases present : id < workspace.allocators.length
    · rwa [allocator_setAllocator after present]
    · rw [setAllocator, List.set_eq_of_length_le (Nat.le_of_not_lt present)]
      exact .refl _
  · rw [allocator_setAllocator_of_ne after same]
    exact .refl _

/-- A workspace with one more allocator. -/
theorem grows_append (workspace : Workspace) (allocator : Allocator) :
    workspace.Grows { workspace with allocators := workspace.allocators ++ [allocator] } := by
  refine ⟨by simp, fun id => ?_⟩
  by_cases present : id < workspace.allocators.length
  · have same : Workspace.allocator
        { workspace with allocators := workspace.allocators ++ [allocator] } id =
          workspace.allocator id := by
      simp [Workspace.allocator, List.getElem?_append_left present]
    rw [same]
    exact .refl _
  · have nothing : workspace.allocator id = .empty := by
      simp [Workspace.allocator, List.getElem?_eq_none (Nat.le_of_not_lt present)]
    rw [nothing]
    exact Allocator.keeps_empty _

/-! ## Queries and their values -/

/-- The allocator of the query is there, its fragments are those of its clauses, and its clauses
carry the values. -/
structure Owns (workspace : Workspace) (query : Query) (values : List Value) : Prop where
  homed : query.allocator < workspace.allocators.length
  genuine : query.Genuine
  carries : Clause.CarriesBody workspace.allocator query values

namespace Owns

variable {workspace later : Workspace} {query : Query} {values : List Value}

theorem grows (owns : workspace.Owns query values) (grows : workspace.Grows later) :
    later.Owns query values :=
  ⟨Nat.lt_of_lt_of_le owns.homed grows.more, owns.genuine, owns.carries.keeps grows.keeps⟩

theorem empty {home : AllocatorId} (present : home < workspace.allocators.length) :
    workspace.Owns (.empty home) [] :=
  ⟨present, ⟨nofun, nofun⟩, [], [], rfl, .nil, rfl⟩

theorem addAll (owns : workspace.Owns query values) {clauses : List Clause} {more : List Value}
    (genuine : ∀ clause ∈ clauses, clause.Genuine)
    (carries : Clause.CarriesAll workspace.allocator query.allocator clauses more) :
    workspace.Owns (query.addAll clauses) (values ++ more) := by
  obtain ⟨written, pending, home⟩ := query
  obtain ⟨homed, ⟨rendered, before⟩, bound, rest, rfl, backs, carried⟩ := owns
  refine ⟨homed, ⟨rendered, ?_⟩, bound, rest ++ more, List.append_assoc _ _ _, backs,
    carried.append carries⟩
  intro clause member
  rw [Query.clauses, Query.addAll, ← List.append_assoc] at member
  rcases List.mem_append.mp member with old | new
  · exact before clause old
  · exact genuine clause new

theorem addFresh (owns : workspace.Owns query values) {clauses : List Clause}
    (fresh : ∀ clause ∈ clauses, clause.Fresh) :
    workspace.Owns (query.addAll clauses) (values ++ clauses.flatMap Clause.values) := by
  refine owns.addAll (fun clause member => (fresh clause member).genuine) ?_
  rw [← Clause.valuesAll_eq]
  exact Clause.carriesAll_valuesAll fun clause member => (fresh clause member).carries _

theorem add (owns : workspace.Owns query values) {clause : Clause} {more : List Value}
    (genuine : clause.Genuine)
    (carries : clause.Carries workspace.allocator query.allocator more) :
    workspace.Owns (query.add clause) (values ++ more) := by
  refine owns.addAll (fun other member => ?_) ⟨more, [], (List.append_nil _).symm, carries, rfl⟩
  rw [List.mem_singleton.mp member]
  exact genuine

/-- A query that becomes the body of a clause brings what it owns. -/
theorem addNested (owns : workspace.Owns query values) {clause : Clause} {inner : Query}
    {more : List Value} (nested : clause.body? = some inner) (inside : workspace.Owns inner more) :
    workspace.Owns (query.add clause) (values ++ more) :=
  owns.add (.nested nested inside.genuine.written inside.genuine.clauses)
    (Clause.carries_of_body? nested inside.carries)

end Owns

/-- Every query owns what the ledger has for it, and every kept condition refers to parameters
with the values that the ledger has for it. -/
structure Accounts (workspace : Workspace) (ledger : Ledger) : Prop where
  owns : ∀ name query, workspace.queries.get? name = some query →
    workspace.Owns query (ledger.given name)
  unknown : ∀ name, workspace.queries.get? name = none → ledger.given name = []
  backs : ∀ name condition, workspace.conditions.get? name = some condition → ∃ home values,
    ledger.kept name = some (home, values) ∧
      (workspace.allocator home).Backs condition.parameters values
  unkept : ∀ name, workspace.conditions.get? name = none → ledger.kept name = none

namespace Accounts

variable {workspace : Workspace} {ledger : Ledger}

theorem blank : Workspace.empty.Accounts .blank :=
  ⟨nofun, fun _ _ => rfl, nofun, fun _ _ => rfl⟩

theorem withAllocators (accounts : workspace.Accounts ledger) {allocators : List Allocator}
    (grows : workspace.Grows { workspace with allocators }) :
    Accounts { workspace with allocators } ledger where
  owns name query found := (accounts.owns name query found).grows grows
  unknown := accounts.unknown
  backs name condition found := by
    obtain ⟨home, values, recorded, backs⟩ := accounts.backs name condition found
    exact ⟨home, values, recorded, backs.keeps (grows.keeps home)⟩
  unkept := accounts.unkept

theorem setQuery (accounts : workspace.Accounts ledger) (name : String) {query : Query}
    {values : List Value} (owns : workspace.Owns query values) :
    (workspace.setQuery name query).Accounts (ledger.give name values) where
  owns other stored found := by
    unfold Workspace.setQuery at found
    by_cases same : other = name
    · subst same
      rw [OrderedMap.get?_insert_self] at found
      obtain rfl := Option.some.inj found
      rw [Ledger.given_give_self]
      exact ⟨owns.homed, owns.genuine, owns.carries⟩
    · rw [OrderedMap.get?_insert_of_ne _ _ same] at found
      rw [Ledger.given_give_of_ne _ _ same]
      obtain ⟨homed, genuine, carries⟩ := accounts.owns other stored found
      exact ⟨homed, genuine, carries⟩
  unknown other absent := by
    unfold Workspace.setQuery at absent
    by_cases same : other = name
    · subst same
      rw [OrderedMap.get?_insert_self] at absent
      cases absent
    · rw [OrderedMap.get?_insert_of_ne _ _ same] at absent
      rw [Ledger.given_give_of_ne _ _ same]
      exact accounts.unknown other absent
  backs := accounts.backs
  unkept := accounts.unkept

theorem create (accounts : workspace.Accounts ledger) (name : String) (allocator : Allocator) :
    (workspace.create name allocator).Accounts (ledger.give name []) := by
  have grown := accounts.withAllocators (workspace.grows_append allocator)
  exact grown.setQuery name (.empty (by simp))

/-- The query of a name owns what the ledger has for it, also when it is new. -/
theorem opened (accounts : workspace.Accounts ledger) (name : String) :
    workspace.Grows (workspace.openQuery name).2 ∧
      (workspace.openQuery name).2.Accounts ledger ∧
      (workspace.openQuery name).2.Owns (workspace.openQuery name).1 (ledger.given name) := by
  have known : (workspace.openQuery name).2.Accounts ledger →
      (workspace.openQuery name).2.Owns (workspace.openQuery name).1 (ledger.given name) :=
    fun after => after.owns name _ (workspace.get?_openQuery name)
  unfold openQuery at known ⊢
  split
  · next query found =>
    rw [found] at known
    exact ⟨.refl workspace, accounts, known accounts⟩
  · next absent =>
    rw [absent] at known
    have after := accounts.create name .empty
    rw [← accounts.unknown name absent, ledger.give_given] at after
    have grown := workspace.grows_append .empty
    exact ⟨⟨grown.more, grown.keeps⟩, after, known after⟩

/-- Writing a query leaves it with what it was given. -/
theorem write (accounts : workspace.Accounts ledger) {name : String} {query done : Query}
    {after : Allocator} (owns : workspace.Owns query (ledger.given name))
    (written : query.write (workspace.allocator query.allocator) = .ok (done, after)) :
    ((workspace.setQuery name done).setAllocator query.allocator after).Accounts ledger := by
  obtain ⟨keeps, backs⟩ := Query.backs_write owns.carries written
  have grows := grows_setAllocator keeps
  have genuine := owns.genuine.write written
  obtain ⟨_, same, _⟩ := Query.write_eq_ok written
  -- the new fragments refer to what the allocator holds only now
  have owned : (workspace.setAllocator query.allocator after).Owns done (ledger.given name) := by
    rw [same] at genuine backs ⊢
    refine ⟨(owns.grows grows).homed, genuine, ledger.given name, [], (List.append_nil _).symm, ?_,
      rfl⟩
    rw [allocator_setAllocator after owns.homed]
    exact backs
  have stored := (accounts.withAllocators grows).setQuery name owned
  rwa [ledger.give_given] at stored

/-- A condition is kept with the values that it refers to. -/
theorem keep (accounts : workspace.Accounts ledger) (name : String) {condition : Where String}
    {home : AllocatorId} {values : List Value}
    (backs : (workspace.allocator home).Backs condition.parameters values) :
    Accounts { workspace with conditions := workspace.conditions.insert name condition }
      { ledger with kept := Function.update ledger.kept name (some (home, values)) } where
  owns other query found := by
    obtain ⟨homed, genuine, carries⟩ := accounts.owns other query found
    exact ⟨homed, genuine, carries⟩
  unknown := accounts.unknown
  backs other stored found := by
    by_cases same : other = name
    · subst same
      rw [OrderedMap.get?_insert_self] at found
      obtain rfl := Option.some.inj found
      exact ⟨home, values, Function.update_self .., backs⟩
    · rw [OrderedMap.get?_insert_of_ne _ _ same] at found
      obtain ⟨home', values', recorded, backs'⟩ := accounts.backs other stored found
      exact ⟨home', values', (Function.update_of_ne same ..).trans recorded, backs'⟩
  unkept other absent := by
    by_cases same : other = name
    · subst same
      rw [OrderedMap.get?_insert_self] at absent
      cases absent
    · rw [OrderedMap.get?_insert_of_ne _ _ same] at absent
      exact (Function.update_of_ne same ..).trans (accounts.unkept other absent)

theorem bindCriteria (accounts : workspace.Accounts ledger) {query : Query} {values : List Value}
    (owns : workspace.Owns query values) (criteria : Criteria) (kept : String) :
    Accounts { workspace.setAllocator query.allocator
        (criteria.bind (workspace.allocator query.allocator)).2 with
          conditions := workspace.conditions.insert kept
            (criteria.bind (workspace.allocator query.allocator)).1 }
      { ledger with
        kept := Function.update ledger.kept kept (some (query.allocator, criteria.values)) } := by
  have ran := run_eq_settle (fun _ => Criteria.grants_render criteria)
    (workspace.allocator query.allocator)
  obtain ⟨keeps, bound⟩ := criteria.ensures_render _ _ _ (.refl _) ran
  have grown := accounts.withAllocators (grows_setAllocator keeps)
  refine grown.keep kept ?_
  show Allocator.Backs ((workspace.setAllocator _ _).allocator query.allocator) _ _
  rw [allocator_setAllocator _ owns.homed]
  exact bound

/-- A kept condition that goes to a query with its allocator brings the values that it was given. -/
theorem addBound (accounts : workspace.Accounts ledger) {name kept : String} {query : Query}
    (owns : workspace.Owns query (ledger.given name))
    (atHome : ∀ entry ∈ ledger.kept kept, entry.1 = query.allocator) :
    (workspace.setQuery name (query.add
        (.restrictBound ((workspace.conditions.get? kept).getD .empty)))).Accounts
      (ledger.add name (((ledger.kept kept).map Prod.snd).getD [])) := by
  refine accounts.setQuery name (owns.add (.plain rfl) ?_)
  show (workspace.allocator query.allocator).Backs (Where.parameters _) _
  cases found : workspace.conditions.get? kept with
  | none =>
    rw [accounts.unkept kept found]
    exact .nil
  | some condition =>
    obtain ⟨home, values, recorded, backs⟩ := accounts.backs kept condition found
    obtain rfl : home = query.allocator := atHome _ recorded
    rw [recorded]
    exact backs

/-- The clauses of a payload are added with their values, or nothing is. -/
theorem addPayload (accounts : workspace.Accounts ledger) {name : String} {query : Query}
    (owns : workspace.Owns query (ledger.given name)) (payload : Json) :
    Accounts (match workspace.stepOn name query (.addPayload payload) with
      | .ok result => result.2
      | .error _ => workspace) (ledger.record name query.allocator (.addPayload payload)) := by
  rw [Workspace.stepOn, Query.addPayload, Ledger.record, Query.Move.clauses]
  cases read : Payload.readClauses query.allocator payload with
  | ok clauses =>
    have fresh := Payload.returns_readClauses query.allocator payload clauses read
    exact accounts.setQuery name (owns.addFresh fresh)
  | error error =>
    show workspace.Accounts (ledger.add name [])
    rwa [ledger.add_nil]

theorem stepOn (accounts : workspace.Accounts ledger) {name : String} {query : Query} {step : Step}
    (owns : workspace.Owns query (ledger.given name)) (sound : step.Sound ledger query.allocator) :
    Accounts (match workspace.stepOn name query step with
      | .ok result => result.2
      | .error _ => workspace) (ledger.record name query.allocator step) := by
  cases step with
  | create values => exact accounts.create name _
  | share source =>
    obtain ⟨_, opened, shared⟩ := accounts.opened source
    exact opened.setQuery name (.empty shared.homed)
  | copy source =>
    obtain ⟨_, opened, copied⟩ := accounts.opened source
    exact opened.setQuery name copied
  | addPayload payload => exact accounts.addPayload owns payload
  | addText text =>
    rw [Workspace.stepOn, Query.addText, Ledger.record, Query.Move.clauses]
    cases Json.read text with
    | ok payload => exact accounts.addPayload owns payload
    | error error =>
      show workspace.Accounts (ledger.add name [])
      rwa [ledger.add_nil]
  | add clause =>
    have fresh : clause.Fresh := sound
    exact accounts.setQuery name (owns.add fresh.genuine (fresh.carries _))
  | addLoop item list body =>
    obtain ⟨grows, opened, inner⟩ := accounts.opened body
    exact opened.setQuery name ((owns.grows grows).addNested rfl inner)
  | addCall body =>
    obtain ⟨grows, opened, inner⟩ := accounts.opened body
    exact opened.setQuery name ((owns.grows grows).addNested rfl inner)
  | bindCriteria criteria kept => exact accounts.bindCriteria owns criteria kept
  | addBound kept => exact accounts.addBound owns sound
  | statement =>
    rw [Workspace.stepOn]
    cases written : query.write (workspace.allocator query.allocator) with
    | ok result => exact accounts.write owns written
    | error error => exact accounts
  | statementWhileBusy =>
    rw [Workspace.stepOn]
    cases query.textWhileBusy <;> exact accounts
  | compile =>
    rw [Workspace.stepOn, Query.compile]
    cases written : query.write (workspace.allocator query.allocator) with
    | ok result => exact accounts.write owns written
    | error error => exact accounts
  | bind wanted value =>
    exact accounts.withAllocators (grows_setAllocator (Allocator.keeps_bind _ wanted value))
  | bindWhileBusy wanted value => exact accounts
  | release names => exact sound.elim
  | sharesWith other =>
    obtain ⟨_, opened, _⟩ := accounts.opened other
    exact opened

/-- A step in place keeps the ledger true. -/
theorem stepInPlace (accounts : workspace.Accounts ledger) {name : String} {step : Step}
    (sound : step.Sound ledger (workspace.query name).allocator) :
    (workspace.stepInPlace name step).2.Accounts
      (ledger.record name (workspace.query name).allocator step) := by
  obtain ⟨_, opened, owned⟩ := accounts.opened name
  rw [stepInPlace_snd]
  exact opened.stepOn owned sound

end Accounts

/-! ## Runs -/

/-- Every step of the run is sound when it is done. -/
def Sound (workspace : Workspace) (ledger : Ledger) : List (String × Step) → Prop
  | [] => True
  | call :: rest =>
      call.2.Sound ledger (workspace.query call.1).allocator ∧
        Sound (workspace.stepInPlace call.1 call.2).2
          (ledger.record call.1 (workspace.query call.1).allocator call.2) rest

/-- The ledger after a run. -/
def ledgerAfter (workspace : Workspace) (ledger : Ledger) : List (String × Step) → Ledger
  | [] => ledger
  | call :: rest =>
      ledgerAfter (workspace.stepInPlace call.1 call.2).2
        (ledger.record call.1 (workspace.query call.1).allocator call.2) rest

theorem Accounts.runInPlace {workspace : Workspace} {ledger : Ledger}
    (accounts : workspace.Accounts ledger) {calls : List (String × Step)}
    (sound : Sound workspace ledger calls) :
    (workspace.runInPlace calls).2.Accounts (ledgerAfter workspace ledger calls) := by
  induction calls generalizing workspace ledger with
  | nil => exact accounts
  | cons call rest ih => exact ih (accounts.stepInPlace sound.1) sound.2

/-- A statement that is compiled refers to what its query was given. -/
theorem Accounts.compile {workspace after : Workspace} {ledger : Ledger}
    (accounts : workspace.Accounts ledger) {name : String} {compiled : Compiled}
    (raw : ∀ text ∈ Clause.rawTextsBody (workspace.query name), Keyed text)
    (made : workspace.stepInPlace name .compile = (.compiled compiled, after)) :
    ∃ names, references (lexemes compiled.statement.toList) = names.map reference ∧
      List.Forall₂ (fun name value => compiled.parameters.get? name = some value) names
        (ledger.given name) := by
  obtain ⟨_, _, owned⟩ := accounts.opened name
  rw [stepInPlace_eq, step_eq, Workspace.stepOn, Query.compile] at made
  unfold Workspace.query at raw
  generalize (workspace.openQuery name).1 = query at raw made owned
  generalize (workspace.openQuery name).2 = opened at made owned
  cases written : query.write (opened.allocator query.allocator) with
  | error error =>
    rw [written] at made
    cases made
  | ok result =>
    obtain ⟨done, granted⟩ := result
    rw [written] at made
    cases made
    have texts : ∀ text ∈ Clause.rawTextsBody done, Keyed text := by
      rwa [Clause.rawTextsBody_eq, Query.clauses_write written, ← Clause.rawTextsBody_eq]
    have tidy := (owned.genuine.write written).tidy texts
    obtain ⟨_, backs⟩ := Query.backs_write owned.carries written
    refine ⟨allParameters done.fragments, ?_, backs⟩
    rw [Query.text, String.toList_ofList, Fragment.references_joined tidy]

/-- Whatever was done to queries before, with success or not, and whichever of them share an
allocator: if no parameter was given up, then every reference that a query has written is to a
parameter of its allocator, with the value that was given in its place, and what is pending carries
the rest; so does every condition that was bound and kept. A statement that is compiled then, and
whose texts have no quotes and no dollar sign, refers to parameters that come with it, and these
have the values that the query was given, in this order. -/
theorem backed_runInPlace {calls : List (String × Step)} (sound : Sound .empty .blank calls) :
    let workspace := (Workspace.empty.runInPlace calls).2
    let ledger := ledgerAfter .empty .blank calls
    (∀ name query, workspace.queries.get? name = some query → ∃ bound rest,
      ledger.given name = bound ++ rest ∧
        (workspace.allocator query.allocator).Backs (allParameters query.fragments) bound ∧
        Clause.CarriesAll workspace.allocator query.allocator query.pending rest) ∧
    (∀ name condition, workspace.conditions.get? name = some condition → ∃ home values,
      ledger.kept name = some (home, values) ∧
        (workspace.allocator home).Backs condition.parameters values) ∧
    (∀ name compiled after,
      (∀ text ∈ Clause.rawTextsBody (workspace.query name), Keyed text) →
      workspace.stepInPlace name .compile = (.compiled compiled, after) →
      ∃ names, references (lexemes compiled.statement.toList) = names.map reference ∧
        List.Forall₂ (fun name value => compiled.parameters.get? name = some value) names
          (ledger.given name)) := by
  intro workspace ledger
  have accounts : workspace.Accounts ledger := Accounts.blank.runInPlace sound
  refine ⟨fun name query found => ?_, accounts.backs, fun name compiled after raw made => ?_⟩
  · obtain ⟨_, _, carries⟩ := accounts.owns name query found
    obtain ⟨written, pending, home⟩ := query
    exact carries
  · exact accounts.compile raw made

/-- A query is given a bound condition and a page, and is written. Another one that has its
allocator fails behind a page, and a third one calls the first. -/
def sharedCalls : List (String × Step) :=
  let criteria : Criteria :=
    OrderedMap.empty.insert "n" (OrderedMap.empty.insert "a" (.value (.value (.string "x"))))
  [("q", .create [("a", .int 1)]), ("q", .bindCriteria criteria "w"), ("p", .share "q"),
    ("p", .addBound "w"), ("p", .add (.page .limit 3)), ("p", .statement), ("r", .share "p"),
    ("r", .add (.page .skip 5)), ("r", .add (.raw " ")), ("r", .statement), ("q", .addCall "p"),
    ("q", .add (.page .limit 4))]

theorem backed_runInPlace_sharedCalls :
    ∃ compiled after names,
      (Workspace.empty.runInPlace sharedCalls).2.stepInPlace "q" .compile =
          (.compiled compiled, after) ∧
        references (lexemes compiled.statement.toList) = names.map reference ∧
        List.Forall₂ (fun name value => compiled.parameters.get? name = some value) names
          [.string "x", .int 3, .int 4] := by
  have page (part : Page) (count : Nat) : (Clause.page part count).Fresh := .plain rfl nofun
  have sound : Sound .empty .blank sharedCalls := by
    refine ⟨trivial, trivial, trivial, ?_, page .limit 3, trivial, trivial, page .skip 5,
      .plain rfl nofun, trivial, trivial, page .limit 4, trivial⟩
    intro entry member
    cases member
    rfl
  have made : ∃ compiled, ((Workspace.empty.runInPlace sharedCalls).2.stepInPlace "q" .compile).1 =
      .compiled compiled := ⟨_, rfl⟩
  obtain ⟨compiled, made⟩ := made
  obtain ⟨names, found, backs⟩ := (backed_runInPlace sound).2.2 "q" compiled _ (by decide +kernel)
    (Prod.ext made rfl)
  exact ⟨compiled, _, names, Prod.ext made rfl, found, backs⟩

end Workspace
end Cypher
