import Mathlib.Data.Finset.Card
import Mathlib.Data.List.Count
import Mathlib.Data.List.DropRight
import Provision.Proofs.Bag.Section
import Provision.Proofs.Provider.Turns
import Provision.Provider.Memory

/-! What a provider in memory holds after registrations, readings of configurations and
questions in any order. A reading replaces everything; a registration adds to its key; a
question changes nothing. So a key has what the latest reading gave it, and after that what
was registered under it since. No key is kept without parameters, which makes the size of
a provider the number of the keys that have any. -/

set_option autoImplicit false

namespace Provision.MemoryProvider

variable {kind : ParamsKind}

inductive Request (kind : ParamsKind) where
  | register (correlation key : String) (params : Params kind)
  | readParams (config : Bag)
  | resolveOne (correlation key : String)
  | resolveAll (correlation key : String)

inductive Answer (kind : ParamsKind) where
  | registered (result : Except ProviderError (Params kind))
  | configured
  | one (result : Except ProviderError (Option (Params kind)))
  | all (result : Except ProviderError (List (Params kind)))

def serve (provider : MemoryProvider kind) :
    Request kind → Answer kind × MemoryProvider kind
  | .register correlation key params =>
    ((asProvider.register correlation key params).outcome provider).map .registered id
  | .readParams config => (.configured, ofConfig config)
  | .resolveOne correlation key =>
    ((asProvider.resolveOne correlation key).outcome provider).map .one id
  | .resolveAll correlation key =>
    ((asProvider.resolveAll correlation key).outcome provider).map .all id

def after (requests : List (Request kind)) : MemoryProvider kind :=
  (runEvents serve empty requests).2

/-! ## What the requests say -/

/-- What a configuration gives a key: the parameters on its line, unless it has a point, and
then its section. -/
def givenBy (kind : ParamsKind) (config : Bag) (key : String) : List (Params kind) :=
  (if '.' ∈ key.toList then []
    else (config.get? key).toList.map fun line => ⟨Bag.ofLine line⟩) ++
    if config.HasSection key then [⟨config.sectionAt key⟩] else []

namespace Request

def config? : Request kind → Option Bag
  | .readParams config => some config
  | _ => none

/-- The parameters that a request registers under a key. -/
def registered? (key : String) : Request kind → Option (Params kind)
  | .register _ registered params => if registered = key then some params else none
  | _ => none

end Request

def latestRead? (past : List (Request kind)) : Option Bag :=
  (past.filterMap Request.config?).getLast?

/-- The requests since the latest reading, all of them if there was none. -/
def sinceRead (past : List (Request kind)) : List (Request kind) :=
  past.rtakeWhile fun request => request.config?.isNone

/-- What requests leave under a key. -/
def content (key : String) (past : List (Request kind)) : List (Params kind) :=
  ((latestRead? past).map (givenBy kind · key)).getD [] ++
    (sinceRead past).filterMap (Request.registered? key)

section Content

variable {key : String} {past : List (Request kind)} {request : Request kind} {config : Bag}

theorem content_of_read (read : request.config? = some config) :
    content key (past ++ [request]) = givenBy kind config key := by
  simp [content, latestRead?, sinceRead, List.filterMap_append, read]

theorem content_of_other (other : request.config? = none) :
    content key (past ++ [request]) = content key past ++ (request.registered? key).toList := by
  have added : [request].filterMap (Request.registered? key) = (request.registered? key).toList := by
    cases registered : request.registered? key <;> simp [registered]
  simp [content, latestRead?, sinceRead, List.filterMap_append, other, added]

end Content

/-! ## Reading a configuration -/

section Reading

variable {provider : MemoryProvider kind} {key : String} {config : Bag}

def registerAll (provider : MemoryProvider kind) (entries : List (String × Params kind)) :
    MemoryProvider kind :=
  entries.foldl (fun provider entry => provider.register entry.1 entry.2) provider

theorem resolveAll_registerAll (provider : MemoryProvider kind)
    (entries : List (String × Params kind)) (key : String) :
    (registerAll provider entries).resolveAll key =
      provider.resolveAll key ++ (entries.filter (·.1 = key)).map Prod.snd := by
  induction entries generalizing provider with
  | nil => simp [registerAll]
  | cons entry rest ih =>
    refine (ih (provider.register entry.1 entry.2)).trans ?_
    rw [resolveAll_register]
    by_cases own : entry.1 = key
    · simp [own]
    · simp [own]

/-- The keys without a point, each with what its line describes. -/
def lineEntries (kind : ParamsKind) (config : Bag) : List (String × Params kind) :=
  (config.toList.filter fun (key, _) => !key.toList.contains '.').map fun (key, line) =>
    (key, ⟨Bag.ofLine line⟩)

def sectionEntries (kind : ParamsKind) (config : Bag) : List (String × Params kind) :=
  config.sectionNames.map fun name => (name, ⟨config.sectionAt name⟩)

theorem filter_lineEntries (config : Bag) (key : String) :
    ((lineEntries kind config).filter (·.1 = key)).map Prod.snd =
      if '.' ∈ key.toList then []
      else (config.get? key).toList.map fun line => ⟨Bag.ofLine line⟩ := by
  rw [lineEntries, List.filter_map, List.map_map, List.filter_filter]
  split
  next pointed =>
    rw [List.map_eq_nil_iff, List.filter_eq_nil_iff]
    rintro ⟨own, line⟩ _ both
    obtain ⟨rfl, plain⟩ : own = key ∧ '.' ∉ own.toList := by simpa using both
    exact plain pointed
  next plain =>
    have own : ∀ pair ∈ config.toList,
        (decide (pair.1 = key) && !pair.1.toList.contains '.') = decide (pair.1 = key) := by
      intro pair _
      by_cases same : pair.1 = key
      · simp [same, plain]
      · simp [same]
    refine (congrArg (List.map _) ((List.filter_congr own).trans (config.filter_toList key))).trans ?_
    rw [List.map_map]
    rfl

theorem filter_sectionEntries (config : Bag) (key : String) :
    ((sectionEntries kind config).filter (·.1 = key)).map Prod.snd =
      if config.HasSection key then [⟨config.sectionAt key⟩] else [] := by
  -- names of sections are not repeated, so a key has one section at most
  have once : config.sectionNames.filter (· = key) =
      if config.HasSection key then [key] else [] := by
    rw [List.filter_eq, config.nodup_sectionNames.count]
    simp only [Bag.mem_sectionNames_iff_hasSection]
    split <;> rfl
  rw [sectionEntries, List.filter_map, List.map_map]
  refine (congrArg (List.map _) once).trans ?_
  split <;> rfl

theorem resolveAll_ofConfig (config : Bag) (key : String) :
    (ofConfig config : MemoryProvider kind).resolveAll key = givenBy kind config key := by
  have read := resolveAll_registerAll empty (lineEntries kind config ++ sectionEntries kind config) key
  rw [List.filter_append, List.map_append, filter_lineEntries, filter_sectionEntries] at read
  exact read

end Reading

/-! ## Keys that have parameters -/

/-- Every key that a provider keeps has parameters. -/
def NoneBlank (provider : MemoryProvider kind) : Prop :=
  ∀ key : String, provider.items[key]? ≠ some []

section Keys

variable {provider : MemoryProvider kind} {key : String}

theorem noneBlank_empty : NoneBlank (empty : MemoryProvider kind) := by
  intro key
  simp [empty]

theorem NoneBlank.register (filled : NoneBlank provider) (key : String) (params : Params kind) :
    NoneBlank (provider.register key params) := by
  intro other
  rw [MemoryProvider.register, Std.ExtTreeMap.getElem?_insert]
  split
  · simp
  · exact filled other

theorem NoneBlank.registerAll (filled : NoneBlank provider)
    (entries : List (String × Params kind)) : NoneBlank (provider.registerAll entries) := by
  induction entries generalizing provider with
  | nil => exact filled
  | cons entry rest ih => exact ih (filled.register entry.1 entry.2)

theorem noneBlank_ofConfig (config : Bag) : NoneBlank (ofConfig config : MemoryProvider kind) :=
  noneBlank_empty.registerAll (entriesOfConfig kind config)

theorem NoneBlank.mem_keys_iff (filled : NoneBlank provider) :
    key ∈ provider.items.keys ↔ provider.resolveAll key ≠ [] := by
  rw [Std.ExtTreeMap.mem_keys, Std.ExtTreeMap.mem_iff_isSome_getElem?, resolveAll]
  have some := filled key
  cases held : provider.items[key]? with
  | none => simp
  | some params => simpa [held] using some

theorem NoneBlank.size_eq (filled : NoneBlank provider) :
    ∃ keys : Finset String, (∀ key, key ∈ keys ↔ provider.resolveAll key ≠ []) ∧
      provider.size = keys.card := by
  refine ⟨⟨provider.items.keys, Std.ExtTreeMap.nodup_keys⟩, fun _ => filled.mem_keys_iff, ?_⟩
  exact Std.ExtTreeMap.length_keys.symm

end Keys

/-! ## Whole runs -/

/-- A provider has under every key what the requests leave there, and keeps no other key. -/
structure Holds (provider : MemoryProvider kind) (past : List (Request kind)) : Prop where
  resolveAll (key : String) : provider.resolveAll key = content key past
  noneBlank : NoneBlank provider

section Runs

variable {provider : MemoryProvider kind} {past : List (Request kind)}

theorem holds_empty : Holds (empty : MemoryProvider kind) [] where
  resolveAll _ := rfl
  noneBlank := noneBlank_empty

theorem Holds.serve (holds : Holds provider past) (request : Request kind) :
    Holds (provider.serve request).2 (past ++ [request]) := by
  cases request with
  | register correlation key params =>
    refine ⟨?_, holds.noneBlank.register key params⟩
    intro other
    refine (resolveAll_register provider key other params).trans ?_
    rw [content_of_other rfl, ← holds.resolveAll other, Request.registered?]
    split <;> simp
  | readParams config =>
    refine ⟨?_, noneBlank_ofConfig config⟩
    intro key
    -- whatever was kept before is replaced, as the history before a reading is of no account
    rw [content_of_read rfl]
    exact resolveAll_ofConfig config key
  | resolveOne correlation key | resolveAll correlation key =>
    refine ⟨?_, holds.noneBlank⟩
    intro other
    rw [content_of_other rfl]
    exact (holds.resolveAll other).trans (List.append_nil _).symm

theorem Holds.run (holds : Holds provider past) (requests : List (Request kind)) :
    Holds (runEvents MemoryProvider.serve provider requests).2 (past ++ requests) := by
  induction requests generalizing provider past with
  | nil => simpa using holds
  | cons request rest ih =>
    have served := ih (holds.serve request)
    rwa [List.append_assoc] at served

end Runs

/-- What a provider answers about a key after some requests, and its size. -/
structure AnswersContent (past : List (Request kind)) (key : String) : Prop where
  all (correlation : String) : (after past).serve (.resolveAll correlation key) =
    (.all (.ok (content key past)), after past)
  one (correlation : String) : (after past).serve (.resolveOne correlation key) =
    (.one (.ok (content key past).head?), after past)
  size : ∃ keys : Finset String, (∀ key, key ∈ keys ↔ content key past ≠ []) ∧
    (after past).size = keys.card

/-- After any requests to a new provider, a key has what the latest configuration gave it
and what was registered since. -/
theorem answersContent (past : List (Request kind)) (key : String) : AnswersContent past key := by
  have holds : Holds (after past) past := holds_empty.run past
  constructor
  case all =>
    intro correlation
    rw [← holds.resolveAll key]
    rfl
  case one =>
    intro correlation
    rw [← holds.resolveAll key]
    rfl
  case size =>
    simp only [← holds.resolveAll]
    exact holds.noneBlank.size_eq

-- the line comes before the section, wherever the two stand in the configuration
example :
    ((after [.register "id" "db" ⟨.empty⟩,
        .readParams (.ofList [("db.host", "b"), ("db", "host=a")])] :
      MemoryProvider .connection).resolveAll "db").map (·.bag.get? "host") =
        [some "a", some "b"] := by
  decide +kernel

end Provision.MemoryProvider
