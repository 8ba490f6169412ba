import PipelineOps.Library.Fallible
import PipelineOps.Orchestrator.Incident
import PipelineOps.Python.JsonIdentity

namespace PipelineOps.Orchestrator

open PipelineOps.Library
open PipelineOps.Python

/-! What a fingerprint tells about the issues it was made from. -/

section Digests

theorem hexByte_ne_nil (byte : UInt8) : hexByte byte ≠ [] :=
  List.cons_ne_nil _ _

theorem prefixCode_hexByte : PrefixCode hexByte := by
  intro byte other left right same
  have digit : ∀ number < 16,
      hexValue (Nat.digitChar number) = number := hexValue_digitChar
  simp only [hexByte, List.cons_append, List.nil_append, List.cons.injEq]
    at same
  obtain ⟨high, low, rest⟩ := same
  have bounded := byte.toNat_lt
  have otherBounded := other.toNat_lt
  have highDigits := congrArg hexValue high
  have lowDigits := congrArg hexValue low
  rw [digit _ (by omega), digit _ (by omega)] at highDigits lowDigits
  exact ⟨UInt8.toNat_inj.mp (by omega), rest⟩

theorem sha256Hexdigest_inj {message other : List UInt8} :
    sha256Hexdigest message = sha256Hexdigest other ↔
      sha256 message = sha256 other := by
  constructor
  · intro same
    apply prefixCode_hexByte.flatMap_injective hexByte_ne_nil
    exact String.ofList_inj.mp same
  · intro same
    rw [sha256Hexdigest, sha256Hexdigest, same]

theorem encodeAscii_of_isAscii {text : List Char} (ascii : IsAscii text) :
    encodeAscii (String.ofList text) =
      .ok (text.map fun character => UInt8.ofNat character.toNat) := by
  have all : text.all (fun character => character.toNat < 128) = true := by
    apply List.all_eq_true.mpr
    exact fun character member => decide_eq_true (ascii character member)
  rw [encodeAscii, String.toList_ofList, if_pos all]

theorem asciiBytes_inj {text other : List Char} (ascii : IsAscii text)
    (otherAscii : IsAscii other) :
    (text.map fun character => UInt8.ofNat character.toNat) =
        other.map (fun character => UInt8.ofNat character.toNat) ↔
      text = other := by
  constructor
  · have decoded : ∀ characters : List Char, IsAscii characters →
        (characters.map fun character => UInt8.ofNat character.toNat).map
          (fun byte => Char.ofNat byte.toNat) = characters := by
      intro characters known
      rw [List.map_map]
      apply (List.map_congr_left _).trans (List.map_id characters)
      intro character member
      have bounded := known character member
      rw [Function.comp_apply, UInt8.toNat_ofNat', Nat.mod_eq_of_lt (by omega),
        Char.ofNat_toNat]
      rfl
    intro same
    rw [← decoded text ascii, same, decoded other otherAscii]
  · intro same
    rw [same]

end Digests

section Payloads

theorem isJson_textOrNull {depth : Nat} (text : Option String) :
    IsJson Printable depth (textOrNull text) := by
  cases text with
  | none => exact .null
  | some text => exact .str text

theorem isJson_payload {depth : Nat} (pipeline : String)
    (runId : Option String) (canonicalIssues : List String) :
    IsJson Printable (depth + 2)
      (fingerprintPayload pipeline runId canonicalIssues) := by
  apply IsJson.dict
  · simp
  · intro entry member
    simp only [List.mem_cons, List.not_mem_nil, or_false] at member
    rcases member with rfl | rfl | rfl
    · apply IsJson.list
      intro item member
      obtain ⟨text, -, rfl⟩ := List.mem_map.mp member
      exact .str text
    · exact .str pipeline
    · exact isJson_textOrNull runId

theorem reordered_int_iff {value other : Int} :
    Reordered (.int value) (.int other) ↔ value = other := by
  constructor
  · intro same
    cases same
    rfl
  · intro same
    rw [same]
    exact .int other

theorem reordered_str_iff {text other : String} :
    Reordered (.str text) (.str other) ↔ text = other := by
  constructor
  · intro same
    cases same
    rfl
  · intro same
    rw [same]
    exact .str other

theorem reordered_textOrNull_iff {text other : Option String} :
    Reordered (textOrNull text) (textOrNull other) ↔ text = other := by
  constructor
  · intro same
    cases text <;> cases other <;> cases same <;> rfl
  · intro same
    rw [same]
    cases other with
    | none => exact .null
    | some text => exact .str text

theorem reordered_texts_iff {texts others : List String} :
    Reordered (.list (texts.map .str)) (.list (others.map .str)) ↔
      texts = others := by
  constructor
  · intro same
    cases same with
    | list pairs =>
        rw [List.forall₂_map_left_iff, List.forall₂_map_right_iff] at pairs
        have equal := pairs.imp fun _ _ pair => reordered_str_iff.mp pair
        rwa [List.forall₂_eq_eq_eq] at equal
  · intro same
    rw [same]
    apply Reordered.list
    rw [List.forall₂_map_left_iff, List.forall₂_map_right_iff]
    exact List.forall₂_same.mpr fun text _ => .str text

/-- Objects with the same keys in the same order are not reordered. -/
theorem eq_of_perm_of_keys {entries others : List (String × Value)}
    (distinct : (entries.map Prod.fst).Nodup)
    (permuted : entries.Perm others)
    (keys : entries.map Prod.fst = others.map Prod.fst) : entries = others := by
  induction entries generalizing others with
  | nil => exact (List.nil_perm.mp permuted).symm
  | cons entry entries induction =>
      cases others with
      | nil => cases keys
      | cons other others =>
          obtain ⟨key, rest⟩ := List.cons.inj keys
          have same : entry = other := by
            have listed : other ∈ entry :: entries :=
              permuted.mem_iff.mpr List.mem_cons_self
            exact List.inj_on_of_nodup_map distinct List.mem_cons_self listed
              key
          subst same
          rw [induction (List.nodup_cons.mp distinct).2
            ((List.perm_cons entry).mp permuted) rest]

theorem reordered_payload_iff {pipeline other : String}
    {runId otherRunId : Option String}
    {canonicalIssues otherIssues : List String} :
    Reordered (fingerprintPayload pipeline runId canonicalIssues)
        (fingerprintPayload other otherRunId otherIssues) ↔
      pipeline = other ∧ runId = otherRunId ∧
        canonicalIssues = otherIssues := by
  constructor
  · intro same
    cases same with
    | dict permuted keys values =>
        have kept := eq_of_perm_of_keys (by simp) permuted keys.symm
        subst kept
        cases values with
        | cons issues rest =>
            cases rest with
            | cons pipelines rest =>
                cases rest with
                | cons runIds rest =>
                    exact ⟨reordered_str_iff.mp pipelines,
                      reordered_textOrNull_iff.mp runIds,
                      reordered_texts_iff.mp issues⟩
  · intro same
    obtain ⟨rfl, rfl, rfl⟩ := same
    apply Reordered.dict (.refl _) rfl
    exact .cons (reordered_texts_iff.mpr rfl) <|
      .cons (reordered_str_iff.mpr rfl) <|
      .cons (reordered_textOrNull_iff.mpr rfl) .nil

end Payloads

section Issues

theorem sortedTexts_eq_iff {texts others : List String} :
    sortedTexts texts = sortedTexts others ↔ texts.Perm others := by
  constructor
  · intro same
    have sorted := List.perm_insertionSort (· ≤ ·) texts
    rw [← sortedTexts, same] at sorted
    exact sorted.symm.trans (List.perm_insertionSort (· ≤ ·) others)
  · intro permuted
    have total : Std.Total fun first second : String => first ≤ second :=
      ⟨String.le_total⟩
    have transitive : IsTrans String fun first second => first ≤ second :=
      ⟨fun _ _ _ => String.le_trans⟩
    have sorted := ((List.perm_insertionSort (· ≤ ·) texts).trans
      permuted).trans (List.perm_insertionSort (· ≤ ·) others).symm
    apply sorted.eq_of_pairwise _ (List.pairwise_insertionSort _ texts)
      (List.pairwise_insertionSort _ others)
    exact fun _ _ _ _ before after => String.le_antisymm before after

variable {room : Nat}

def issueText (room : Nat) (issue : Value) : String :=
  String.ofList (jsonText room issue)

theorem mapM_stableJson {issues : List Value}
    (each : ∀ issue ∈ issues, Writes room issue) :
    issues.mapM (stableJson room) = .ok (issues.map (issueText room)) := by
  apply mapM_eq_ok
  intro issue member
  rw [stableJson, each issue member]
  rfl

theorem issueText_eq_iff {issue other : Value}
    (json : IsJson Printable room issue)
    (otherJson : IsJson Printable room other) :
    issueText room issue = issueText room other ↔ Reordered issue other := by
  rw [← jsonDumps_eq_iff json otherJson, json.writes, otherJson.writes,
    Except.ok.injEq, issueText, issueText]

theorem map_issueText_eq_iff {issues others : List Value}
    (json : ∀ issue ∈ issues, IsJson Printable room issue)
    (othersJson : ∀ other ∈ others, IsJson Printable room other) :
    issues.map (issueText room) = others.map (issueText room) ↔
      List.Forall₂ Reordered issues others := by
  induction issues generalizing others with
  | nil => cases others <;> simp
  | cons issue issues induction =>
      cases others with
      | nil => simp
      | cons other others =>
          have known := json issue List.mem_cons_self
          have otherKnown := othersJson other List.mem_cons_self
          rw [List.map_cons, List.map_cons, List.cons.injEq,
            issueText_eq_iff known otherKnown, induction
              (fun later member => json later (List.mem_cons_of_mem _ member))
              (fun later member =>
                othersJson later (List.mem_cons_of_mem _ member)),
            List.forall₂_cons]

/-- The lists are permutations of one another up to the order of keys. -/
def SameIssues (issues others : List Value) : Prop :=
  ∃ middle, issues.Perm middle ∧ List.Forall₂ Reordered middle others

theorem perm_texts_iff {issues others : List Value}
    (json : ∀ issue ∈ issues, IsJson Printable room issue)
    (othersJson : ∀ other ∈ others, IsJson Printable room other) :
    (issues.map (issueText room)).Perm (others.map (issueText room)) ↔
      SameIssues issues others := by
  constructor
  · intro permuted
    have composed : Relation.Comp (· = List.map (issueText room) ·) List.Perm
        (others.map (issueText room)) issues := by
      rw [List.eq_map_comp_perm]
      exact permuted.symm
    obtain ⟨middle, texts, listed⟩ := composed
    have middleJson : ∀ issue ∈ middle, IsJson Printable room issue :=
      fun issue member => json issue (listed.mem_iff.mp member)
    exact ⟨middle, listed.symm,
      (map_issueText_eq_iff middleJson othersJson).mp texts.symm⟩
  · intro same
    obtain ⟨middle, permuted, pairs⟩ := same
    have middleJson : ∀ issue ∈ middle, IsJson Printable room issue :=
      fun issue member => json issue (permuted.mem_iff.mpr member)
    rw [← (map_issueText_eq_iff middleJson othersJson).mpr pairs]
    exact permuted.map _

def canonicalIssues (room : Nat) (issues : List Value) : List String :=
  sortedTexts (issues.map (issueText room))

theorem canonicalizeDetectedIssues_ok {issues : List Value}
    (json : ∀ issue ∈ issues, IsJson Printable room issue) :
    canonicalizeDetectedIssues room issues =
      .ok (canonicalIssues room issues) := by
  rw [canonicalizeDetectedIssues,
    mapM_stableJson fun issue member => (json issue member).writes]
  rfl

theorem canonicalIssues_eq_iff {issues others : List Value}
    (json : ∀ issue ∈ issues, IsJson Printable room issue)
    (othersJson : ∀ other ∈ others, IsJson Printable room other) :
    canonicalIssues room issues = canonicalIssues room others ↔
      SameIssues issues others :=
  sortedTexts_eq_iff.trans (perm_texts_iff json othersJson)

/-- The bytes that are hashed for JSON issues. -/
def payloadBytes (room : Nat) (pipeline : String) (runId : Option String)
    (issues : List Value) : List UInt8 :=
  (jsonText room (fingerprintPayload pipeline runId
    (canonicalIssues room issues))).map fun character =>
      UInt8.ofNat character.toNat

theorem fingerprintMessage_ok (pipeline : String) (runId : Option String)
    {issues : List Value}
    (json : ∀ issue ∈ issues, IsJson Printable (room + 2) issue) :
    fingerprintMessage (room + 2) pipeline runId (some issues) =
      .ok (payloadBytes (room + 2) pipeline runId issues) := by
  have payload := @isJson_payload room pipeline runId
    (canonicalIssues (room + 2) issues)
  have encoded := encodeAscii_of_isAscii payload.isAscii
  apply bind_ok_iff.mpr
  refine ⟨_, canonicalizeDetectedIssues_ok json, ?_⟩
  exact bind_ok_iff.mpr ⟨_, payload.writes, encoded⟩

theorem payloadBytes_eq_iff {pipeline other : String}
    {runId otherRunId : Option String} {issues others : List Value}
    (json : ∀ issue ∈ issues, IsJson Printable (room + 2) issue)
    (othersJson : ∀ other ∈ others, IsJson Printable (room + 2) other) :
    payloadBytes (room + 2) pipeline runId issues =
        payloadBytes (room + 2) other otherRunId others ↔
      pipeline = other ∧ runId = otherRunId ∧ SameIssues issues others := by
  have payload := @isJson_payload room pipeline runId
    (canonicalIssues (room + 2) issues)
  have otherPayload := @isJson_payload room other otherRunId
    (canonicalIssues (room + 2) others)
  rw [payloadBytes, payloadBytes,
    asciiBytes_inj payload.isAscii otherPayload.isAscii,
    ← String.ofList_inj, ← issueText, ← issueText,
    issueText_eq_iff payload otherPayload, reordered_payload_iff,
    canonicalIssues_eq_iff json othersJson]

theorem canonicalizeDetectedIssues_mono {more : Nat} (grows : room ≤ more)
    {issues : List Value} {texts : List String}
    (returned : canonicalizeDetectedIssues room issues = .ok texts) :
    canonicalizeDetectedIssues more issues = .ok texts := by
  obtain ⟨written, each, sorted⟩ := bind_ok_iff.mp returned
  refine bind_ok_iff.mpr ⟨written, ?_, sorted⟩
  clear returned sorted
  induction issues generalizing written with
  | nil => exact each
  | cons issue rest induction =>
      rw [List.mapM_cons] at each ⊢
      obtain ⟨text, first, each⟩ := bind_ok_iff.mp each
      obtain ⟨others, later, each⟩ := bind_ok_iff.mp each
      exact bind_ok_iff.mpr ⟨text, jsonDumps_mono issue grows first,
        bind_ok_iff.mpr ⟨others, induction others later, each⟩⟩

/-- What is hashed does not depend on how much room there is. -/
theorem fingerprintMessage_mono {more : Nat} (grows : room ≤ more)
    {pipeline : String} {runId : Option String}
    {issues : Option (List Value)} {message : List UInt8}
    (returned : fingerprintMessage room pipeline runId issues = .ok message) :
    fingerprintMessage more pipeline runId issues = .ok message := by
  obtain ⟨texts, canonical, returned⟩ := bind_ok_iff.mp returned
  obtain ⟨text, written, encoded⟩ := bind_ok_iff.mp returned
  exact bind_ok_iff.mpr
    ⟨texts, canonicalizeDetectedIssues_mono grows canonical,
      bind_ok_iff.mpr ⟨text, jsonDumps_mono _ grows written, encoded⟩⟩

end Issues

/-- Where the hash tells the two messages apart, the fingerprint tells apart
what differs in more than the order of issues and keys. -/
theorem makeFingerprint_identity {pipeline other : String}
    {runId otherRunId : Option String} {issues others : List Value}
    {room otherRoom : Nat}
    (json : ∀ issue ∈ issues, IsJson Printable (room + 2) issue)
    (othersJson : ∀ other ∈ others, IsJson Printable (otherRoom + 2) other)
    (injective : Set.InjOn sha256
      {message | fingerprintMessage (room + 2) pipeline runId (some issues) =
          .ok message ∨
        fingerprintMessage (otherRoom + 2) other otherRunId (some others) =
          .ok message}) :
    ∃ fingerprint otherFingerprint,
      makeFingerprint (room + 2) pipeline runId (some issues) =
        .ok fingerprint ∧
      makeFingerprint (otherRoom + 2) other otherRunId (some others) =
        .ok otherFingerprint ∧
      (fingerprint = otherFingerprint ↔
        pipeline = other ∧ runId = otherRunId ∧ SameIssues issues others) := by
  have message := fingerprintMessage_ok pipeline runId json
  have otherMessage := fingerprintMessage_ok other otherRunId othersJson
  refine ⟨_, _, bind_ok_iff.mpr ⟨_, message, rfl⟩,
    bind_ok_iff.mpr ⟨_, otherMessage, rfl⟩, ?_⟩
  -- both messages are those of the larger room
  have left : room ≤ max room otherRoom := Nat.le_max_left ..
  have right : otherRoom ≤ max room otherRoom := Nat.le_max_right ..
  have grown : ∀ issue ∈ issues,
      IsJson Printable (max room otherRoom + 2) issue :=
    fun issue member => (json issue member).mono (by omega)
  have otherGrown : ∀ other ∈ others,
      IsJson Printable (max room otherRoom + 2) other :=
    fun other member => (othersJson other member).mono (by omega)
  have same := Except.ok.inj ((fingerprintMessage_ok pipeline runId grown).symm
    |>.trans (fingerprintMessage_mono (by omega) message))
  have otherSame := Except.ok.inj
    ((fingerprintMessage_ok other otherRunId otherGrown).symm.trans
      (fingerprintMessage_mono (by omega) otherMessage))
  rw [sha256Hexdigest_inj, injective.eq_iff (.inl message) (.inr otherMessage),
    ← same, ← otherSame, payloadBytes_eq_iff grown otherGrown]

theorem not_printable_power {digits : Nat}
    (long : Value.intMaxStrDigits ≤ digits) : ¬ Printable (10 ^ digits) := by
  rw [Printable, Int.natAbs_pow]
  exact Nat.not_lt.mpr (Nat.pow_le_pow_right (by omega) long)

theorem not_sameIssues_powers {digits more : Nat} (differs : digits ≠ more) :
    ¬ SameIssues [.int (10 ^ digits)] [.int (10 ^ more)] := by
  intro same
  obtain ⟨middle, permuted, pairs⟩ := same
  obtain rfl := List.singleton_perm.mp permuted
  cases pairs with
  | cons pair _ =>
      have equal := congrArg Int.natAbs (reordered_int_iff.mp pair)
      rw [Int.natAbs_pow, Int.natAbs_pow] at equal
      exact differs (Nat.pow_right_injective (by omega) equal)

theorem makeFingerprint_of_stableJson {room : Nat} {pipeline : String}
    {runId : Option String} {value : Value} {exc : Exc}
    (written : stableJson room value = .error exc) :
    makeFingerprint room pipeline runId (some [value]) = .error exc := by
  rw [makeFingerprint, fingerprintMessage, canonicalizeDetectedIssues,
    Option.getD_some, List.mapM_cons, written]
  rfl

/-- CPython refuses to write an integer of more than 4300 digits. -/
theorem makeFingerprint_oversized :
    ∃ exc, ∀ room digits, Value.intMaxStrDigits ≤ digits →
      makeFingerprint room "pipeline_silver" none (some [.int (10 ^ digits)]) =
        .error exc := by
  obtain ⟨exc, failed⟩ := intText_of_not_printable
  refine ⟨exc, fun room digits long => makeFingerprint_of_stableJson ?_⟩
  rw [stableJson, jsonDumps, failed _ (not_printable_power long)]

/-- An empty array inside so many others. -/
def nestedArrays : Nat → Value
  | 0 => .list []
  | depth + 1 => .list [nestedArrays depth]

theorem reordered_nestedArrays (depth : Nat) :
    Reordered (nestedArrays depth) (nestedArrays depth) := by
  induction depth with
  | zero => exact .list .nil
  | succ depth induction => exact .list (.cons induction .nil)

theorem stableJson_nestedArrays {room depth : Nat} (deep : room ≤ depth) :
    ∃ exc, stableJson room (nestedArrays depth) = .error exc := by
  by_contra returns
  obtain ⟨text, written⟩ := returns_iff.mpr returns
  clear returns
  rw [stableJson] at written
  induction depth generalizing room text with
  | zero =>
      obtain ⟨inner, -, same, -⟩ := jsonDumps_list_ok_iff.mp written
      omega
  | succ depth induction =>
      obtain ⟨inner, texts, same, items, -⟩ := jsonDumps_list_ok_iff.mp written
      obtain ⟨own, first, -⟩ := bind_ok_iff.mp items
      exact induction (by omega) own first

/-- Neither an integer of too many digits nor arrays nested too deep, for the
1000 calls that CPython allows at most, have a fingerprint. -/
theorem unwritten_unfingerprinted :
    (SameIssues [.int (10 ^ 4300)] [.int (10 ^ 4300)] ∧
      ¬ SameIssues [.int (10 ^ 4300)] [.int (10 ^ 4301)] ∧
      ∀ room, makeFingerprint room "pipeline_silver" none
          (some [.int (10 ^ 4300)]) =
        makeFingerprint room "pipeline_silver" none
          (some [.int (10 ^ 4301)]) ∧
        ∀ fingerprint, makeFingerprint room "pipeline_silver" none
          (some [.int (10 ^ 4300)]) ≠ .ok fingerprint) ∧
    SameIssues [nestedArrays 1000] [nestedArrays 1000] ∧
      ∀ room ≤ 1000, ∀ fingerprint,
        makeFingerprint room "pipeline_silver" none
          (some [nestedArrays 1000]) ≠ .ok fingerprint := by
  refine ⟨⟨⟨_, .refl _, .cons (.int _) .nil⟩,
    not_sameIssues_powers (by omega), ?_⟩,
    ⟨_, .refl _, .cons (reordered_nestedArrays 1000) .nil⟩, ?_⟩
  · intro room
    obtain ⟨exc, failed⟩ := makeFingerprint_oversized
    rw [failed room 4300 (by decide), failed room 4301 (by decide)]
    exact ⟨rfl, fun _ => nofun⟩
  · intro room few fingerprint returned
    obtain ⟨exc, failed⟩ := stableJson_nestedArrays few
    rw [makeFingerprint_of_stableJson failed] at returned
    cases returned

def taggedEntries : List (String × Value) :=
  [("tag", .null), ("n", .list [.int 3])]

def lateIssues : List Value := [.str "late", .dict taggedEntries]

def reorderedIssues : List Value := [.dict taggedEntries.reverse, .str "late"]

theorem printable_three : Printable 3 :=
  Nat.lt_of_lt_of_le (by omega : 3 < 10 ^ 1)
    (Nat.pow_le_pow_right (by omega) (by decide))

theorem isJson_taggedEntries :
    ∀ entry ∈ taggedEntries, IsJson Printable 1 entry.2 := by
  intro entry member
  simp only [taggedEntries, List.mem_cons, List.not_mem_nil, or_false]
    at member
  rcases member with rfl | rfl
  · exact .null
  · apply IsJson.list
    intro item member
    rw [List.mem_singleton.mp member]
    exact .int printable_three

theorem isJson_lateIssues : ∀ issue ∈ lateIssues, IsJson Printable 2 issue := by
  intro issue member
  simp only [lateIssues, List.mem_cons, List.not_mem_nil, or_false] at member
  rcases member with rfl | rfl
  · exact .str "late"
  · exact .dict (by decide) isJson_taggedEntries

theorem isJson_reorderedIssues :
    ∀ issue ∈ reorderedIssues, IsJson Printable 2 issue := by
  intro issue member
  simp only [reorderedIssues, List.mem_cons, List.not_mem_nil, or_false]
    at member
  rcases member with rfl | rfl
  · apply IsJson.dict (by decide)
    exact fun entry member =>
      isJson_taggedEntries entry (List.mem_reverse.mp member)
  · exact .str "late"

theorem injOn_messages {first second : Except Exc (List UInt8)}
    {message other : List UInt8} (returned : first = .ok message)
    (otherReturned : second = .ok other)
    (differs : sha256 message ≠ sha256 other) :
    Set.InjOn sha256
      {bytes | first = .ok bytes ∨ second = .ok bytes} := by
  subst returned otherReturned
  intro left leftHashed right rightHashed same
  rcases leftHashed with leftHashed | leftHashed <;>
    rcases rightHashed with rightHashed | rightHashed <;>
    obtain rfl := Except.ok.inj leftHashed <;>
    obtain rfl := Except.ok.inj rightHashed
  · rfl
  · exact absurd same differs
  · exact absurd same.symm differs
  · rfl

theorem makeFingerprint_identity_late :
    ∃ fingerprint otherFingerprint,
      makeFingerprint 2 "p" (some "1") (some lateIssues) = .ok fingerprint ∧
      makeFingerprint 2 "p" none (some reorderedIssues) =
        .ok otherFingerprint ∧
      (fingerprint = otherFingerprint ↔
        "p" = "p" ∧ some "1" = none ∧
          SameIssues lateIssues reorderedIssues) :=
  makeFingerprint_identity isJson_lateIssues isJson_reorderedIssues
    (injOn_messages (fingerprintMessage_ok _ _ isJson_lateIssues)
      (fingerprintMessage_ok _ _ isJson_reorderedIssues)
      (by decide +kernel))

end PipelineOps.Orchestrator
