import Mathlib.Data.List.Perm.Basic
import PipelineOps.Python.JsonText

namespace PipelineOps.Python

open PipelineOps.Library

/-! What the JSON text of a value tells about the value. -/

/-- Equality up to the order of object keys at any depth. -/
inductive Reordered : Value → Value → Prop
  | null : Reordered .null .null
  | bool (value : Bool) : Reordered (.bool value) (.bool value)
  | int (value : Int) : Reordered (.int value) (.int value)
  | str (text : String) : Reordered (.str text) (.str text)
  | list {items others : List Value}
      (each : List.Forall₂ Reordered items others) :
      Reordered (.list items) (.list others)
  | dict {entries middle others : List (String × Value)}
      (permuted : entries.Perm middle)
      (keys : middle.map Prod.fst = others.map Prod.fst)
      (values : List.Forall₂ Reordered (middle.map Prod.snd)
        (others.map Prod.snd)) :
      Reordered (.dict entries) (.dict others)

variable {room : Nat}

abbrev ReadsJson (room : Nat) (value : Value) : Prop :=
  ReadsAs (jsonText room) (IsJson Printable room) Reordered Closes value

theorem typeName_of_text {value other : Value} {left right : List Char}
    (json : IsJson Printable room value)
    (otherJson : IsJson Printable room other)
    (same : jsonText room value ++ left = jsonText room other ++ right) :
    value.typeName = other.typeName := by
  obtain ⟨head, tail, text, leads⟩ := jsonText_head json
  obtain ⟨otherHead, otherTail, otherText, otherLeads⟩ :=
    jsonText_head otherJson
  rw [text, otherText] at same
  rw [← leads, ← otherLeads, (List.cons.inj same).1]

theorem readsJson_bool (value : Bool) : ReadsJson room (.bool value) := by
  intro other left right otherJson _ _ same
  have types := typeName_of_text (.bool value) otherJson same
  cases otherJson with
  | bool other =>
      cases value <;> cases other
      · exact ⟨.bool false, List.append_cancel_left same⟩
      · exact absurd (List.cons.inj same).1 (by decide)
      · exact absurd (List.cons.inj same).1 (by decide)
      · exact ⟨.bool true, List.append_cancel_left same⟩
  | _ => exact absurd types (by simp [Value.typeName])

theorem readsJson_int {value : Int} (printable : Printable value) :
    ReadsJson room (.int value) := by
  intro other left right otherJson leftCloses rightCloses same
  have types := typeName_of_text (.int printable) otherJson same
  cases otherJson with
  | @int _ other otherPrintable =>
      rw [jsonText_int printable, jsonText_int otherPrintable] at same
      obtain ⟨digits, rest⟩ := append_inj_of_span isIntChar_of_mem
        isIntChar_of_mem leftCloses.no_integer rightCloses.no_integer same
      obtain rfl := toString_int_injective digits
      exact ⟨.int value, rest⟩
  | _ => exact absurd types (by simp [Value.typeName])

theorem readsJson_str (text : String) : ReadsJson room (.str text) := by
  intro other left right otherJson _ _ same
  have types := typeName_of_text (.str text) otherJson same
  cases otherJson with
  | str other =>
      rw [jsonText_str, jsonText_str] at same
      obtain ⟨rfl, rest⟩ := prefixCode_text text other left right same
      exact ⟨.str text, rest⟩
  | _ => exact absurd types (by simp [Value.typeName])

theorem readsJson_list {items : List Value}
    (each : ∀ item ∈ items, IsJson Printable room item)
    (reads : ∀ item ∈ items, ReadsJson room item) :
    ReadsJson (room + 1) (.list items) := by
  intro other left right otherJson _ _ same
  have types := typeName_of_text (.list each) otherJson same
  cases otherJson with
  | @list _ others otherEach =>
      rw [jsonText_of_ok (jsonDumps_list fun item member =>
          (each item member).writes),
        jsonText_of_ok (jsonDumps_list fun item member =>
          (otherEach item member).writes)] at same
      simp only [List.cons_append, List.append_assoc, List.nil_append,
        List.cons.injEq, true_and] at same
      have opens : ∀ value, IsJson Printable room value →
          ∃ head tail, jsonText room value = head :: tail ∧ head ≠ ']' := by
        intro value json
        obtain ⟨head, tail, text, leads⟩ := jsonText_head json
        refine ⟨head, tail, text, ?_⟩
        intro closing
        rw [closing] at leads
        exact typeName_ne_empty value leads.symm
      obtain ⟨pairs, rest⟩ := readsAs_separated (by decide)
        (closes_cons (by decide)) (closes_cons (by decide)) opens each reads
        otherEach same
      exact ⟨.list pairs, rest⟩
  | _ => exact absurd types (by simp [Value.typeName])

theorem readsMember {entry : String × Value} (reads : ReadsJson room entry.2) :
    ReadsAs (memberText room) (fun entry => IsJson Printable room entry.2)
      (fun entry other => entry.1 = other.1 ∧ Reordered entry.2 other.2)
      Closes entry := by
  intro other left right otherJson leftCloses rightCloses same
  rw [memberText, memberText, List.append_assoc, List.append_assoc] at same
  obtain ⟨keys, rest⟩ := prefixCode_text _ _ _ _ same
  obtain ⟨values, rest⟩ := reads other.2 left right otherJson leftCloses
    rightCloses (List.cons.inj rest).2
  exact ⟨⟨keys, values⟩, rest⟩

theorem reordered_of_sorted {entries others : List (String × Value)}
    (pairs : List.Forall₂
      (fun entry other => entry.1 = other.1 ∧ Reordered entry.2 other.2)
      (sortedItems entries) (sortedItems others)) :
    Reordered (.dict entries) (.dict others) := by
  have composed : Relation.Comp (List.Forall₂ fun entry other =>
      entry.1 = other.1 ∧ Reordered entry.2 other.2) List.Perm
      (sortedItems entries) others :=
    ⟨sortedItems others, pairs, List.perm_insertionSort _ others⟩
  rw [List.forall₂_comp_perm_eq_perm_comp_forall₂] at composed
  obtain ⟨middle, permuted, pairs⟩ := composed
  apply Reordered.dict
    ((List.perm_insertionSort _ entries).symm.trans permuted)
  · have keys : List.Forall₂ Eq (middle.map Prod.fst) (others.map Prod.fst) :=
      List.forall₂_map_left_iff.mpr (List.forall₂_map_right_iff.mpr
        (pairs.imp fun _ _ pair => pair.1))
    rwa [List.forall₂_eq_eq_eq] at keys
  · exact List.forall₂_map_left_iff.mpr (List.forall₂_map_right_iff.mpr
      (pairs.imp fun _ _ pair => pair.2))

theorem readsJson_dict {entries : List (String × Value)}
    (distinct : (entries.map Prod.fst).Nodup)
    (each : ∀ entry ∈ entries, IsJson Printable room entry.2)
    (reads : ∀ entry ∈ entries, ReadsJson room entry.2) :
    ReadsJson (room + 1) (.dict entries) := by
  intro other left right otherJson _ _ same
  have types := typeName_of_text (.dict distinct each) otherJson same
  cases otherJson with
  | @dict _ others otherDistinct otherEach =>
      rw [jsonText_of_ok (jsonDumps_dict fun entry member =>
          (each entry member).writes),
        jsonText_of_ok (jsonDumps_dict fun entry member =>
          (otherEach entry member).writes)] at same
      simp only [List.cons_append, List.append_assoc, List.nil_append,
        List.cons.injEq, true_and] at same
      have opens : ∀ entry : String × Value, IsJson Printable room entry.2 →
          ∃ head tail, memberText room entry = head :: tail ∧
            head ≠ '\x7d' := by
        intro entry _
        rw [memberText, toList_encodeBasestringAscii, List.cons_append]
        exact ⟨'"', _, rfl, by decide⟩
      obtain ⟨pairs, rest⟩ := readsAs_separated (by decide)
        (closes_cons (by decide)) (closes_cons (by decide)) opens
        (fun entry member => each entry (mem_sortedItems.mp member))
        (fun entry member => readsMember (reads entry
          (mem_sortedItems.mp member)))
        (fun entry member => otherEach entry (mem_sortedItems.mp member)) same
      exact ⟨reordered_of_sorted pairs, rest⟩
  | _ => exact absurd types (by simp [Value.typeName])

/-- Behind what cannot belong to it, the text of a JSON value tells the value up
to the order of keys. -/
theorem IsJson.reads {value : Value} (json : IsJson Printable room value) :
    ReadsJson room value := by
  induction json with
  | null =>
      intro other left right otherJson _ _ same
      have types := typeName_of_text .null otherJson same
      cases otherJson with
      | null => exact ⟨.null, List.append_cancel_left same⟩
      | _ => exact absurd types (by simp [Value.typeName])
  | bool value => exact readsJson_bool value
  | int printable => exact readsJson_int printable
  | str text => exact readsJson_str text
  | list each induction => exact readsJson_list each induction
  | dict distinct each induction =>
      exact readsJson_dict distinct each induction

theorem pairwise_sortedItems {α : Type} (items : List (String × α)) :
    (sortedItems items).Pairwise fun first second => first.1 ≤ second.1 := by
  have total : Std.Total fun first second : String × α =>
      first.1 ≤ second.1 :=
    ⟨fun first second => String.le_total first.1 second.1⟩
  have transitive : IsTrans (String × α) fun first second =>
      first.1 ≤ second.1 := ⟨fun _ _ _ => String.le_trans⟩
  exact List.pairwise_insertionSort _ items

theorem sortedItems_eq_of_perm {α : Type} {items others : List (String × α)}
    (distinct : (items.map Prod.fst).Nodup) (permuted : items.Perm others) :
    sortedItems items = sortedItems others := by
  have permutedSorted : (sortedItems items).Perm (sortedItems others) :=
    ((List.perm_insertionSort _ items).trans permuted).trans
      (List.perm_insertionSort _ others).symm
  apply permutedSorted.eq_of_pairwise _ (pairwise_sortedItems items)
    (pairwise_sortedItems others)
  intro item other member otherMember before after
  apply List.inj_on_of_nodup_map distinct (mem_sortedItems.mp member)
    (permuted.mem_iff.mpr (mem_sortedItems.mp otherMember))
  exact String.le_antisymm before after

section Reordered

variable {style : JsonStyle}

theorem jsonItems_congr {items others : List Value}
    (pairs : List.Forall₂ (fun item other =>
      jsonDumps style room item = jsonDumps style room other) items others) :
    jsonItems style room items = jsonItems style room others := by
  induction pairs with
  | nil => rfl
  | cons pair rest induction => rw [jsonItems, jsonItems, pair, induction]

theorem jsonEntries_congr {entries others : List (String × Value)}
    (keys : entries.map Prod.fst = others.map Prod.fst)
    (values : List.Forall₂ (fun value other =>
      jsonDumps style room value = jsonDumps style room other)
      (entries.map Prod.snd) (others.map Prod.snd)) :
    jsonEntries style room entries = jsonEntries style room others := by
  induction entries generalizing others with
  | nil =>
      cases others with
      | nil => rfl
      | cons other others => cases keys
  | cons entry entries induction =>
      cases others with
      | nil => cases keys
      | cons other others =>
          obtain ⟨key, keys⟩ := List.cons.inj keys
          cases values with
          | cons value values =>
              rw [jsonEntries, jsonEntries, key, value, induction keys values]

/-- Values that differ in the order of keys only are written alike, or fail
alike. -/
theorem jsonDumps_of_reordered (sorted : style.sortKeys = true)
    {integers : Int → Prop} {depth : Nat} {value other : Value}
    (json : IsJson integers depth value) (same : Reordered value other) :
    jsonDumps style room value = jsonDumps style room other := by
  induction json generalizing room other with
  | null =>
      cases same
      rfl
  | bool value =>
      cases same
      rfl
  | int allowed =>
      cases same
      rfl
  | str text =>
      cases same
      rfl
  | list each induction =>
      cases same with
      | list pairs =>
          have written := (List.forall₂_and_left _ _).mpr
            ⟨fun item member => @induction item member, pairs⟩
          rw [jsonDumps, jsonDumps]
          refine congrArg _ (funext fun inner => ?_)
          rw [jsonItems_congr (written.imp fun _ _ pair => pair.1 pair.2)]
  | @dict depth entries distinct each induction =>
      cases same with
      | @dict _ middle others permuted keys values =>
          have known : ∀ value ∈ middle.map Prod.snd, ∀ {inner : Nat} {other},
              Reordered value other →
                jsonDumps style inner value = jsonDumps style inner other := by
            intro value member
            obtain ⟨entry, listed, rfl⟩ := List.mem_map.mp member
            exact induction entry (permuted.mem_iff.mpr listed)
          have written := (List.forall₂_and_left _ _).mpr
            ⟨fun value member => @known value member, values⟩
          rw [jsonDumps, jsonDumps]
          refine congrArg _ (funext fun inner => ?_)
          have listed : (jsonEntries style inner entries).Perm
              (jsonEntries style inner others) := by
            rw [← jsonEntries_congr keys
              (written.imp fun _ _ pair => pair.1 pair.2), jsonEntries_eq,
              jsonEntries_eq]
            exact permuted.map _
          have distinctKeys :
              ((jsonEntries style inner entries).map Prod.fst).Nodup := by
            rw [jsonEntries_eq, List.map_map]
            exact distinct
          rw [JsonStyle.ordered, JsonStyle.ordered, if_pos sorted,
            if_pos sorted, sortedItems_eq_of_perm distinctKeys listed]

end Reordered

/-- The text of a JSON value is a canonical form of it. -/
theorem jsonDumps_eq_iff {value other : Value}
    (json : IsJson Printable room value)
    (otherJson : IsJson Printable room other) :
    jsonDumps canonicalStyle room value =
      jsonDumps canonicalStyle room other ↔ Reordered value other := by
  constructor
  · intro same
    have ended : ∀ rest : List Char, rest = [] → Closes rest := by
      intro rest empty character leads
      rw [empty] at leads
      cases leads
    have texts : jsonText room value ++ [] = jsonText room other ++ [] := by
      rw [jsonText, jsonText, same]
    exact (json.reads other [] [] otherJson (ended [] rfl) (ended [] rfl)
      texts).1
  · exact jsonDumps_of_reordered rfl json

end PipelineOps.Python
