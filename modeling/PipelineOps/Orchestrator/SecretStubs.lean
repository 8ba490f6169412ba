import PipelineOps.Library.Words
import PipelineOps.Orchestrator.Secrets
import PipelineOps.Python.Digits

namespace PipelineOps.Orchestrator

open PipelineOps.Library
open PipelineOps.Python

/-! Which keys share an environment stub. -/

section Names

variable {character : Char}

theorem collapseRuns_eq (inRun : Bool) (characters : List Char) :
    collapseRuns inRun characters =
      Words.collapse isAsciiAlnum '_' inRun characters := by
  induction characters generalizing inRun with
  | nil => rfl
  | cons character rest induction =>
      simp only [collapseRuns, Words.collapse, induction]

/-- The words of a key, as a variable name spells them. -/
def envWords (key : String) : List (List Char) :=
  (Words.words isAsciiAlnum key.toList).map (·.map Char.toUpper)

theorem isAsciiAlnum_iff :
    isAsciiAlnum character = true ↔
      (48 ≤ character.toNat ∧ character.toNat ≤ 57) ∨
      (65 ≤ character.toNat ∧ character.toNat ≤ 90) ∨
      (97 ≤ character.toNat ∧ character.toNat ≤ 122) := by
  simp only [isAsciiAlnum, Bool.or_eq_true, isAsciiDigit_iff, Bool.and_eq_true,
    decide_eq_true_eq, or_assoc]
  exact Iff.rfl

theorem toNat_toUpper (character : Char) :
    character.toUpper.toNat =
      if 97 ≤ character.toNat ∧ character.toNat ≤ 122 then
        character.toNat - 32
      else character.toNat := by
  by_cases lower : 'a'.val ≤ character.val ∧ character.val ≤ 'z'.val
  · have raised : character.toUpper.toNat =
        (character.val + ('A'.val - 'a'.val)).toNat := by
      delta Char.toUpper
      rw [dif_pos lower]
      exact Char.toNat_val.symm
    have shift : ('A'.val - 'a'.val).toNat = 4294967264 := by decide
    have within : 97 ≤ character.toNat ∧ character.toNat ≤ 122 := lower
    rw [if_pos within, raised, UInt32.toNat_add, shift, Char.toNat_val]
    omega
  · have other : ¬ (97 ≤ character.toNat ∧ character.toNat ≤ 122) := lower
    rw [if_neg other]
    delta Char.toUpper
    rw [dif_neg lower]

theorem isAsciiAlnum_toUpper (inside : isAsciiAlnum character = true) :
    isAsciiAlnum character.toUpper = true := by
  rw [isAsciiAlnum_iff] at inside ⊢
  rw [toNat_toUpper]
  split <;> omega

theorem isAsciiAlnum_of_isSpace (space : isSpace character = true) :
    isAsciiAlnum character = false := by
  rw [← Bool.not_eq_true, isAsciiAlnum_iff]
  simp [isSpace] at space
  omega

theorem isWord_of_mem_envWords {key : String} :
    ∀ word ∈ envWords key, Words.IsWord isAsciiAlnum word := by
  intro word member
  obtain ⟨plain, among, rfl⟩ := List.mem_map.mp member
  obtain ⟨some_, inside⟩ := Words.isWord_of_mem_words among
  refine ⟨by simpa using some_, fun character holds => ?_⟩
  obtain ⟨letter, spelled, rfl⟩ := List.mem_map.mp holds
  exact isAsciiAlnum_toUpper (inside letter spelled)

theorem keeps_of_isAsciiAlnum (character : Char)
    (inside : isAsciiAlnum character = true) :
    (character == '_') = false := by
  rw [beq_eq_false_iff_ne]
  rintro rfl
  cases inside

theorem stripBy_collapseRuns (characters : List Char) :
    stripBy (· == '_') (collapseRuns false characters) =
      List.intercalate ['_'] (Words.words isAsciiAlnum characters) := by
  have gaps : ∀ character ∈ Words.lead isAsciiAlnum '_' characters ++
      Words.trail isAsciiAlnum '_' characters,
      (character == '_') = true := by
    intro character member
    rw [beq_iff_eq]
    rcases List.mem_append.mp member with ahead | behind
    · exact Words.eq_of_mem_lead ahead
    · exact Words.eq_of_mem_trail behind
  rw [collapseRuns_eq, (Words.collapse_eq characters).2, Words.body]
  cases split : Words.words isAsciiAlnum characters with
  | nil => exact stripBy_of_dropped gaps
  | cons word others =>
      have areWords : ∀ each ∈ word :: others,
          Words.IsWord isAsciiAlnum each := by
        rw [← split]
        exact fun each among => Words.isWord_of_mem_words among
      rw [← List.append_assoc]
      exact stripBy_of_kept keeps_of_isAsciiAlnum
        (Words.head?_intercalate (areWords word List.mem_cons_self))
        (Words.getLast?_intercalate (List.cons_ne_nil _ _) areWords) gaps

theorem toList_keyToEnvName (key : String) :
    (keyToEnvName key).toList =
      "SECRET_".toList ++ List.intercalate ['_'] (envWords key) := by
  rw [keyToEnvName, stripBy_collapseRuns, Words.map_intercalate,
    String.toList_append]
  exact congrArg _ String.toList_ofList

theorem keyToEnvName_eq_iff (key other : String) :
    keyToEnvName key = keyToEnvName other ↔ envWords key = envWords other := by
  rw [← String.toList_inj, toList_keyToEnvName, toList_keyToEnvName,
    List.append_cancel_left_eq]
  exact Words.intercalate_inj isWord_of_mem_envWords isWord_of_mem_envWords
    (by decide)

/-- White space around a key is in no word. -/
theorem envWords_strip (key : String) :
    envWords (strip key) = envWords key := by
  obtain ⟨front, back, split, blanks⟩ := exists_stripBy isSpace key.toList
  have outside : ∀ character ∈ front ++ back,
      isAsciiAlnum character = false := fun character member =>
    isAsciiAlnum_of_isSpace (blanks character member)
  rw [envWords, envWords, strip, String.toList_ofList]
  conv_rhs => rw [split]
  rw [Words.words_append_right fun character member =>
      outside character (List.mem_append_right _ member),
    Words.words_append_left fun character member =>
      outside character (List.mem_append_left _ member)]

theorem keyToEnvName_strip (key : String) :
    keyToEnvName (strip key) = keyToEnvName key :=
  (keyToEnvName_eq_iff _ _).mpr (envWords_strip key)

end Names

section Stubs

/-- `SECRET_…=value` in the environment. -/
def SecretEnv.withStub (env : SecretEnv) (key value : String) : SecretEnv :=
  { env with environ := env.environ.set (keyToEnvName key) value }

def SecretEnv.withStubs (env : SecretEnv) (stubs : List (String × String)) :
    SecretEnv :=
  stubs.foldl (fun env stub => env.withStub stub.1 stub.2) env

def SecretEnv.withoutStub (env : SecretEnv) (key : String) : SecretEnv :=
  { env with environ := env.environ.restrict (· ≠ keyToEnvName key) }

/-- The latest stub under a variable that the key shares. -/
def stubFor (stubs : List (String × String)) (key : String) :
    Option (String × String) :=
  stubs.reverse.find? fun stub => envWords stub.1 = envWords key

variable {env other : SecretEnv} {key another value name : String}
  {stubs : List (String × String)}

/-- A secret depends on its stub, on the scope and on the store behind it. -/
theorem getSecret_congr
    (stub : strip (env.getenv (keyToEnvName key) "") =
      strip (other.getenv (keyToEnvName key) ""))
    (scope : secretScope env = secretScope other)
    (store : env.dbutils = other.dbutils) :
    getSecret env key = getSecret other key := by
  simp only [getSecret, envSecretsBackend, databricksSecretBackend,
    keyToEnvName_strip, stub, scope, store]

theorem keyToEnvName_ne_scope (key : String) :
    keyToEnvName key ≠ "DATABRICKS_SECRET_SCOPE" ∧
      keyToEnvName key ≠ "KEY_VAULT_SECRET_SCOPE" := by
  constructor
  all_goals
    intro same
    have characters := congrArg String.toList same
    rw [toList_keyToEnvName] at characters
    simp at characters

theorem getenv_withStub_self :
    (env.withStub key value).getenv (keyToEnvName key) "" = value := by
  simp [SecretEnv.withStub, SecretEnv.getenv, Dict.set]

theorem getenv_withStub_of_ne (apart : name ≠ keyToEnvName key) :
    (env.withStub key value).getenv name "" = env.getenv name "" := by
  simp [SecretEnv.withStub, SecretEnv.getenv, Dict.set, apart]

theorem getenv_withoutStub_self :
    (env.withoutStub key).getenv (keyToEnvName key) "" = "" := by
  simp [SecretEnv.withoutStub, SecretEnv.getenv, Dict.find_restrict]

theorem getenv_withoutStub_of_ne (apart : name ≠ keyToEnvName key) :
    (env.withoutStub key).getenv name "" = env.getenv name "" := by
  simp [SecretEnv.withoutStub, SecretEnv.getenv, Dict.find_restrict, apart]

@[simp] theorem secretScope_withStub :
    secretScope (env.withStub key value) = secretScope env := by
  obtain ⟨databricks, vault⟩ := keyToEnvName_ne_scope key
  rw [secretScope, secretScope, getenv_withStub_of_ne databricks.symm,
    getenv_withStub_of_ne vault.symm]

@[simp] theorem secretScope_withoutStub :
    secretScope (env.withoutStub key) = secretScope env := by
  obtain ⟨databricks, vault⟩ := keyToEnvName_ne_scope key
  rw [secretScope, secretScope, getenv_withoutStub_of_ne databricks.symm,
    getenv_withoutStub_of_ne vault.symm]

theorem getSecret_withStub_of_ne (apart : envWords another ≠ envWords key) :
    getSecret (env.withStub another value) key = getSecret env key := by
  refine getSecret_congr ?_ secretScope_withStub rfl
  rw [getenv_withStub_of_ne]
  rw [Ne, keyToEnvName_eq_iff]
  exact apart.symm

theorem getSecret_withStub_of_eq (asked : strip key ≠ "")
    (same : envWords another = envWords key) :
    getSecret (env.withStub another value) key =
      if strip value = "" then getSecret (env.withoutStub key) key
      else .ok (strip value) := by
  have shared : keyToEnvName key = keyToEnvName another :=
    (keyToEnvName_eq_iff key another).mpr same.symm
  split
  · rename_i blank
    refine getSecret_congr ?_
      (secretScope_withStub.trans secretScope_withoutStub.symm) rfl
    rw [getenv_withoutStub_self, shared, getenv_withStub_self, blank]
    rfl
  · rename_i filled
    simp only [getSecret, if_neg asked, envSecretsBackend, keyToEnvName_strip,
      shared, getenv_withStub_self, if_neg filled]

theorem SecretEnv.withStubs_concat (stub : String × String) :
    env.withStubs (stubs ++ [stub]) =
      (env.withStubs stubs).withStub stub.1 stub.2 := by
  rw [withStubs, withStubs, List.foldl_append]
  rfl

theorem stubFor_concat (stub : String × String) :
    stubFor (stubs ++ [stub]) key =
      if envWords stub.1 = envWords key then some stub
      else stubFor stubs key := by
  rw [stubFor, stubFor, List.reverse_append, List.reverse_singleton,
    List.singleton_append, List.find?_cons]
  by_cases same : envWords stub.1 = envWords key
  · simp [same]
  · simp [same]

/-- Without its own stub, a key reads past all others. -/
theorem getSecret_withoutStub_withStubs :
    getSecret ((env.withStubs stubs).withoutStub key) key =
      getSecret (env.withoutStub key) key := by
  have behind : secretScope (env.withStubs stubs) = secretScope env ∧
      (env.withStubs stubs).dbutils = env.dbutils := by
    induction stubs using List.reverseRecOn with
    | nil => exact ⟨rfl, rfl⟩
    | append_singleton stubs stub induction =>
        rw [SecretEnv.withStubs_concat, secretScope_withStub]
        exact induction
  refine getSecret_congr ?_ ?_ behind.2
  · rw [getenv_withoutStub_self, getenv_withoutStub_self]
  · rw [secretScope_withoutStub, secretScope_withoutStub, behind.1]

/-- A key reads the latest stub that was set under its words, and what it read
before where there is none; a blank stub is none. -/
theorem getSecret_withStubs (env : SecretEnv) (stubs : List (String × String))
    (key : String) (asked : strip key ≠ "") :
    getSecret (env.withStubs stubs) key =
      (stubFor stubs key).elim (getSecret env key) fun stub =>
        if strip stub.2 = "" then getSecret (env.withoutStub key) key
        else .ok (strip stub.2) := by
  induction stubs using List.reverseRecOn with
  | nil => rfl
  | append_singleton stubs stub induction =>
      rw [SecretEnv.withStubs_concat, stubFor_concat]
      by_cases same : envWords stub.1 = envWords key
      · rw [getSecret_withStub_of_eq asked same, if_pos same,
          getSecret_withoutStub_withStubs]
        rfl
      · rw [getSecret_withStub_of_ne same, if_neg same, induction]

/-- `db-host` and `db.host` are one stub. -/
theorem getSecret_withStubs_dashes :
    getSecret (SecretEnv.withStubs ⟨.empty, .error ⟨.runtimeError, ""⟩⟩
      [("db host", "first"), ("db-host", " second "), ("db.port", "third")])
      "db.host" = .ok "second" := by
  rw [getSecret_withStubs _ _ _ (by decide)]
  decide

end Stubs

end PipelineOps.Orchestrator
