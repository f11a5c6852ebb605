import Provision.Cache.Typed
import Provision.Proofs.Cache.History

/-! Runs of a cache in memory that is used both through its bytes and through types. No
order of the instants is asked for: a clock may be set back between two calls. To the
entries a call through a type is one request for bytes, or none at all if its value
cannot be encoded, so a run of calls leaves what some run of requests leaves. -/

set_option autoImplicit false

namespace Provision

inductive CacheOperation : Type 1 where
  | request (request : CacheRequest)
  | store {ε α : Type} (codec : Codec ε α) (key : String) (value : α) (ttl : Option Duration)
  | retrieve {ε α : Type} (codec : Codec ε α) (key : String)

structure CacheCall : Type 1 where
  now : Instant
  tie : TieBreak
  operation : CacheOperation

/-- The request for bytes that a call comes down to, if it comes to one. -/
def CacheCall.event? (call : CacheCall) : Option CacheEvent :=
  match call.operation with
  | .request request => some ⟨call.now, call.tie, request⟩
  | .store codec key value ttl =>
    (codec.encode value).toOption.map fun bytes => ⟨call.now, call.tie, .store key bytes ttl⟩
  | .retrieve _ key => some ⟨call.now, call.tie, .retrieve key⟩

/-- The answer of a retrieval through a type, by what is found. -/
def Codec.decodeFound {ε α : Type} (codec : Codec ε α) :
    Option ByteArray → Except (CacheError ε) (Option α)
  | none => .ok none
  | some bytes =>
    match codec.decode bytes with
    | .error error => .error (.serialization error)
    | .ok value => .ok (some value)

@[simp] theorem Codec.decodeFound_of_read {ε α : Type} (codec : Codec ε α)
    (found : Option ByteArray) :
    (Except.mapError CacheError.widen (.ok found)).bind codec.decodeFound =
      codec.decodeFound found := rfl

theorem Cache.retrieve_eq {σ ε α : Type} (cache : Cache σ) (codec : Codec ε α) (key : String)
    (now : Instant) (state : σ) :
    cache.retrieve codec key now state =
      (((cache.retrieveRaw key now state).1.mapError .widen).bind codec.decodeFound,
        (cache.retrieveRaw key now state).2) := by
  unfold Cache.retrieve
  obtain ⟨answer, next⟩ := cache.retrieveRaw key now state
  cases answer with
  | error error => rfl
  | ok found =>
    cases found with
    | none => rfl
    | some bytes =>
      cases decoded : codec.decode bytes <;> simp [decoded, Codec.decodeFound]

namespace MemoryCache

/-- What a call leaves of a cache. -/
def afterCall (cache : MemoryCache) (call : CacheCall) : MemoryCache :=
  match call.operation with
  | .request request => (cache.serve ⟨call.now, call.tie, request⟩).2
  | .store codec key value ttl =>
    ((asCache call.tie).store codec key value ttl call.now cache).2
  | .retrieve codec key => ((asCache call.tie).retrieve codec key call.now cache).2

def afterCalls (cache : MemoryCache) (calls : List CacheCall) : MemoryCache :=
  calls.foldl afterCall cache

variable {ε α : Type} {cache : MemoryCache} {codec : Codec ε α} {tie : TieBreak} {key : String}
  {now : Instant}

theorem store_eq_of_encoded {value : α} {bytes : ByteArray}
    (encoded : codec.encode value = .ok bytes) (ttl : Option Duration) :
    (asCache tie).store codec key value ttl now cache =
      (((storeRaw tie key bytes ttl now cache).1.mapError .widen).map fun _ => value,
        (storeRaw tie key bytes ttl now cache).2) := by
  by_cases blank : key = ""
  · subst blank
    rfl
  · simp only [Cache.store, blank, if_false, encoded]
    rfl

theorem store_of_not_encoded {value : α} {error : ε} (failed : codec.encode value = .error error)
    (ttl : Option Duration) :
    ((asCache tie).store codec key value ttl now cache).2 = cache := by
  by_cases blank : key = ""
  · subst blank
    rfl
  · simp only [Cache.store, blank, if_false, failed]

theorem retrieve_eq (codec : Codec ε α) (tie : TieBreak) (key : String) (now : Instant)
    (cache : MemoryCache) :
    (asCache tie).retrieve codec key now cache =
      (((retrieveRaw key now cache).1.mapError .widen).bind codec.decodeFound,
        (retrieveRaw key now cache).2) :=
  Cache.retrieve_eq (asCache tie) codec key now cache

theorem afterCall_eq (cache : MemoryCache) (call : CacheCall) :
    cache.afterCall call = (call.event?.map fun event => (cache.serve event).2).getD cache := by
  obtain ⟨now, tie, operation⟩ := call
  cases operation with
  | request request => rfl
  | store codec key value ttl =>
    cases encoded : codec.encode value with
    | error error =>
      simp [afterCall, CacheCall.event?, encoded, Except.toOption, store_of_not_encoded encoded]
    | ok bytes =>
      simp [afterCall, CacheCall.event?, encoded, Except.toOption, store_eq_of_encoded encoded, serve]
  | retrieve codec key => exact congrArg Prod.snd (retrieve_eq codec tie key now cache)

/-- A run of calls leaves what the requests for bytes leave that it comes down to. -/
theorem afterCalls_eq_after (cache : MemoryCache) (calls : List CacheCall) :
    cache.afterCalls calls = cache.after (calls.filterMap CacheCall.event?) := by
  induction calls generalizing cache with
  | nil => rfl
  | cons call rest ih =>
    have first : cache.afterCalls (call :: rest) = (cache.afterCall call).afterCalls rest := rfl
    rw [first, ih, afterCall_eq, List.filterMap_cons]
    cases call.event? <;> rfl

theorem valid_afterCalls (config : CacheConfig) (calls : List CacheCall) :
    ((empty config).afterCalls calls).Valid := by
  rw [afterCalls_eq_after]
  exact runEvents_invariant Valid (fun valid => valid.serve _) (valid_empty config) _

theorem config_afterCalls (config : CacheConfig) (calls : List CacheCall) :
    ((empty config).afterCalls calls).config = config := by
  rw [afterCalls_eq_after, config_after]
  rfl

end MemoryCache

end Provision
