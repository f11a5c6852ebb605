import Provision.Params.Credential
import Provision.Proofs.Text.Quoted

/-! What the description of a credential gives away. It is a function of the values under
five keys, none of which holds a secret, and it shows no more of these than the store key,
the user name and the access id that they lead to. Every secret is therefore possible
behind every description. -/

set_option autoImplicit false

namespace Provision

namespace Bag

/-- Two bags have the same value, or none, under each of some keys. -/
def AgreeOn (keys : List String) (a b : Bag) : Prop :=
  ∀ key ∈ keys, a.get? key = b.get? key

variable {keys : List String} {a b : Bag} {key fallback value : String}

theorem AgreeOn.nonEmpty? (agree : AgreeOn keys a b) (listed : key ∈ keys) :
    a.nonEmpty? key = b.nonEmpty? key := by
  rw [Bag.nonEmpty?, Bag.nonEmpty?, agree key listed]

theorem AgreeOn.firstNonEmpty? (agree : AgreeOn keys a b) (listed : key ∈ keys)
    (fallbackListed : fallback ∈ keys) :
    a.firstNonEmpty? key fallback = b.firstNonEmpty? key fallback := by
  rw [Bag.firstNonEmpty?, Bag.firstNonEmpty?, agree.nonEmpty? listed,
    agree.nonEmpty? fallbackListed]

theorem AgreeOn.put (agree : AgreeOn keys a b) (unlisted : key ∉ keys) :
    AgreeOn keys a (b.put key value) := by
  intro other listed
  have distinct : key ≠ other := fun same => unlisted (same ▸ listed)
  rw [get?_put, if_neg distinct]
  exact agree other listed

theorem firstNonEmpty?_of_get? (held : a.get? key = some value) (nonempty : value ≠ "") :
    a.firstNonEmpty? key fallback = some value := by
  simp [Bag.firstNonEmpty?, Bag.nonEmpty?, held, nonempty]

end Bag

namespace Credential

/-- The keys that a description looks at. -/
def openKeys : List String :=
  ["store_key", "username", "user", "access_id", "client_id"]

variable {a b : Credential}

section Shown

variable (agree : Bag.AgreeOn openKeys a.bag b.bag)
include agree

theorem storeKey?_eq_of_agree : a.storeKey? = b.storeKey? :=
  agree.nonEmpty? (by decide)

theorem username?_eq_of_agree : a.username? = b.username? :=
  agree.firstNonEmpty? (by decide) (by decide)

theorem accessId?_eq_of_agree : a.accessId? = b.accessId? :=
  agree.firstNonEmpty? (by decide) (by decide)

end Shown

/-- What is shown can be read back, so nothing but the shown values enters a description. -/
theorem debugText_eq_iff :
    a.debugText = b.debugText ↔
      a.storeKey? = b.storeKey? ∧ a.username? = b.username? ∧ a.accessId? = b.accessId? := by
  constructor
  · intro same
    have shown := congrArg String.toList same
    unfold debugText at shown
    simp only [String.toList_append, List.append_assoc] at shown
    obtain ⟨storeKey, shown⟩ := Text.quotedOption_append_inj (List.append_cancel_left shown)
    obtain ⟨username, shown⟩ := Text.quotedOption_append_inj (List.append_cancel_left shown)
    obtain ⟨accessId, -⟩ := Text.quotedOption_append_inj (List.append_cancel_left shown)
    exact ⟨storeKey, username, accessId⟩
  · intro same
    obtain ⟨storeKey, username, accessId⟩ := same
    unfold debugText
    rw [storeKey, username, accessId]

theorem debugText_eq_of_agree (agree : Bag.AgreeOn openKeys a.bag b.bag) :
    a.debugText = b.debugText :=
  debugText_eq_iff.mpr
    ⟨storeKey?_eq_of_agree agree, username?_eq_of_agree agree, accessId?_eq_of_agree agree⟩

/-- A credential with the same open values and any secrets that are not empty. -/
theorem exists_agreeing (c : Credential) {password accessKey : String}
    (passwordGiven : password ≠ "") (accessKeyGiven : accessKey ≠ "") :
    ∃ other : Credential, Bag.AgreeOn openKeys c.bag other.bag ∧
      other.password? = some password ∧ other.accessKey? = some accessKey := by
  have itself : Bag.AgreeOn openKeys c.bag c.bag := fun _ _ => rfl
  refine ⟨(c.setPassword password).setAccessKey accessKey, ?agree, ?password, ?accessKey⟩
  case agree => exact (itself.put (by decide)).put (by decide)
  case password =>
    refine Bag.firstNonEmpty?_of_get? ?_ passwordGiven
    simp [setAccessKey, setPassword, Params.put, Bag.get?_put]
  case accessKey =>
    refine Bag.firstNonEmpty?_of_get? ?_ accessKeyGiven
    simp [setAccessKey, Params.put, Bag.get?_put]

/-- The description of a credential against that of any other one. -/
structure HidesSecrets (c : Credential) : Prop where
  alike (other : Credential) :
    Bag.AgreeOn openKeys c.bag other.bag → c.debugText = other.debugText
  exact (other : Credential) : c.debugText = other.debugText ↔
    c.storeKey? = other.storeKey? ∧ c.username? = other.username? ∧ c.accessId? = other.accessId?
  possible (password accessKey : String) : password ≠ "" → accessKey ≠ "" →
    ∃ other : Credential, c.debugText = other.debugText ∧
      other.password? = some password ∧ other.accessKey? = some accessKey

theorem hidesSecrets (c : Credential) : HidesSecrets c := by
  constructor
  case alike => exact fun _ agree => debugText_eq_of_agree agree
  case exact => exact fun _ => debugText_eq_iff
  case possible =>
    intro password accessKey passwordGiven accessKeyGiven
    obtain ⟨other, agree, secrets⟩ := c.exists_agreeing passwordGiven accessKeyGiven
    exact ⟨other, debugText_eq_of_agree agree, secrets⟩

/-- An empty user name gives way to the second key, and the password goes unseen. -/
example : debugText ⟨.ofList [("username", ""), ("user", "admin"), ("password", "hunter2")]⟩ =
    "CredentialParams \x7b store_key: None, username: Some(\"admin\"), access_id: None, .. \x7d" := by
  decide +kernel

end Credential

end Provision
