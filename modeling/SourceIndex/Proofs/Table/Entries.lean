import SourceIndex.Value

/-! # Entries under distinct keys

Where the keys of entries are distinct each entry is the value of its key, and a key is given a value
in its place.  Entries that are inserted one after the other leave each key with its last value
(`foldl_insert`). -/
set_option autoImplicit false
namespace SourceIndex.Value

theorem insert_of_not_mem {key : String} (v : Value) {entries : Entries}
    (new : key ∉ entries.map Prod.fst) : insert key v entries = entries ++ [(key, v)] := by
  induction entries with
  | nil => rfl
  | cons first rest ih =>
      rw [List.map_cons, List.mem_cons, not_or] at new
      rw [insert, if_neg (Ne.symm new.1), ih new.2]
      rfl

theorem mem_of_mem_keys_insert {key other : String} {v : Value} {entries : Entries}
    (among : other ∈ (insert key v entries).map Prod.fst) :
    other = key ∨ other ∈ entries.map Prod.fst := by
  induction entries with
  | nil => exact .inl (List.mem_singleton.mp among)
  | cons first rest ih =>
      rw [insert] at among
      split at among
      · rename_i here
        rw [List.map_cons, List.mem_cons] at among
        exact among.imp (·.trans here) (List.mem_cons_of_mem _)
      · rw [List.map_cons, List.mem_cons] at among
        rcases among with rfl | later
        · exact .inr List.mem_cons_self
        · exact (ih later).imp id (List.mem_cons_of_mem _)

theorem nodup_insert {entries : Entries} (distinct : (entries.map Prod.fst).Nodup) (key : String)
    (v : Value) : ((insert key v entries).map Prod.fst).Nodup := by
  induction entries with
  | nil => exact List.pairwise_singleton _ _
  | cons first rest ih =>
      rw [List.map_cons, List.nodup_cons] at distinct
      rw [insert]
      split
      · exact List.nodup_cons.mpr distinct
      · rename_i apart
        refine List.nodup_cons.mpr ⟨?_, ih distinct.2⟩
        intro among
        exact (mem_of_mem_keys_insert among).elim apart distinct.1

theorem lookup_of_not_mem {key : String} {entries : Entries}
    (absent : key ∉ entries.map Prod.fst) : lookup key entries = none := by
  have other : ∀ entry ∈ entries, ¬(entry.1 == key) = true := by
    intro entry among same
    exact absent (eq_of_beq same ▸ List.mem_map_of_mem among)
  rw [lookup, List.find?_eq_none.mpr other]
  rfl

theorem exists_of_lookup {key : String} {v : Value} {entries : Entries}
    (found : lookup key entries = some v) : ∃ entry ∈ entries, entry.1 = key ∧ entry.2 = v := by
  obtain ⟨entry, here, rfl⟩ := Option.map_eq_some_iff.mp found
  have named : entry.1 = key := by simpa using List.find?_some here
  exact ⟨entry, List.mem_of_find?_eq_some here, named, rfl⟩

section
variable {entries : Entries} (distinct : (entries.map Prod.fst).Nodup)
include distinct

theorem lookup_of_mem {entry : String × Value} (among : entry ∈ entries) :
    lookup entry.1 entries = some entry.2 := by
  induction entries with
  | nil => cases among
  | cons first rest ih =>
      rw [List.map_cons, List.nodup_cons] at distinct
      rcases List.mem_cons.mp among with rfl | later
      · simp [lookup]
      · have apart : first.1 ≠ entry.1 := by
          intro same
          exact distinct.1 (same ▸ List.mem_map_of_mem later)
        have found := ih distinct.2 later
        rw [lookup] at found ⊢
        rw [List.find?_cons_of_neg (by simpa using apart)]
        exact found

theorem insert_of_mem {key : String} (v : Value) (there : key ∈ entries.map Prod.fst) :
    insert key v entries = entries.map fun entry => if entry.1 = key then (entry.1, v) else entry := by
  induction entries with
  | nil => cases there
  | cons first rest ih =>
      rw [List.map_cons, List.nodup_cons] at distinct
      rw [insert, List.map_cons]
      by_cases here : first.1 = key
      · have others : ∀ entry ∈ rest, (if entry.1 = key then (entry.1, v) else entry) = entry := by
          intro entry among
          have apart : entry.1 ≠ key := by
            intro same
            exact distinct.1 (here.trans same.symm ▸ List.mem_map_of_mem among)
          exact if_neg apart
        rw [if_pos here, if_pos here, List.map_congr_left others, List.map_id']
      · rw [List.map_cons, List.mem_cons] at there
        rw [if_neg here, if_neg here, ih distinct.2 (there.resolve_left (Ne.symm here))]

end

/-! ## Keys that are repeated -/

/-- What is kept of entries by their keys: each key where it comes first, with the value it has last. -/
def lastValues (entries : Entries) : Entries :=
  (entries.map Prod.fst).eraseDups.map fun key => (key, (lookup key entries.reverse).getD .null)

theorem map_fst_lastValues (entries : Entries) :
    (lastValues entries).map Prod.fst = (entries.map Prod.fst).eraseDups := by
  rw [lastValues, List.map_map]
  exact List.map_id _

theorem lookup_cons (key : String) (entry : String × Value) (entries : Entries) :
    lookup key (entry :: entries) = if entry.1 = key then some entry.2 else lookup key entries := by
  by_cases here : entry.1 = key <;> simp [lookup, here]

theorem lastValues_concat {entries : Entries}
    (distinct : ((lastValues entries).map Prod.fst).Nodup) (entry : String × Value) :
    lastValues (entries ++ [entry]) = insert entry.1 entry.2 (lastValues entries) := by
  have keys : (lastValues entries).map Prod.fst = (entries.map Prod.fst).eraseDups :=
    map_fst_lastValues entries
  rw [lastValues, List.map_append, List.reverse_append, List.eraseDups_append]
  simp only [List.map_cons, List.map_nil, List.reverse_cons, List.reverse_nil, List.nil_append,
    List.singleton_append, lookup_cons]
  by_cases there : entry.1 ∈ entries.map Prod.fst
  · have known : entry.1 ∈ (lastValues entries).map Prod.fst := by rw [keys]; simpa using there
    have old : [entry.1].removeAll (entries.map Prod.fst) = [] := by simp_all [List.removeAll]
    rw [insert_of_mem distinct _ known, old]
    simp only [List.eraseDups_nil, List.append_nil, lastValues, List.map_map]
    refine List.map_congr_left ?_
    intro key _
    by_cases same : entry.1 = key
    · simp [same]
    · simp [same, Ne.symm same]
  · have new : entry.1 ∉ (lastValues entries).map Prod.fst := by rw [keys]; simpa using there
    have added : [entry.1].removeAll (entries.map Prod.fst) = [entry.1] := by
      simp_all [List.removeAll]
    rw [insert_of_not_mem _ new, added]
    simp only [List.eraseDups_cons, List.filter_nil, List.eraseDups_nil, List.map_append,
      List.map_cons, List.map_nil, if_true, Option.getD_some, lastValues]
    refine congrArg (· ++ [entry]) (List.map_congr_left ?_)
    intro key among
    have apart : entry.1 ≠ key := by
      rintro rfl
      exact there (List.mem_eraseDups.mp among)
    rw [if_neg apart]

theorem foldl_insert (entries : Entries) : ∀ before : Entries,
    ((lastValues before).map Prod.fst).Nodup →
      entries.foldl (fun kept entry => insert entry.1 entry.2 kept) (lastValues before) =
          lastValues (before ++ entries) ∧
        ((lastValues (before ++ entries)).map Prod.fst).Nodup := by
  induction entries with
  | nil =>
      intro before distinct
      rw [List.append_nil, List.foldl_nil]
      exact ⟨rfl, distinct⟩
  | cons entry rest ih =>
      intro before distinct
      have more := nodup_insert distinct entry.1 entry.2
      rw [← lastValues_concat distinct] at more
      have behind := ih (before ++ [entry]) more
      rw [List.append_assoc, List.singleton_append] at behind
      rw [List.foldl_cons, ← lastValues_concat distinct]
      exact behind

theorem lastValues_eq_foldl (entries : Entries) :
    lastValues entries = entries.foldl (fun kept entry => insert entry.1 entry.2 kept) [] :=
  (foldl_insert entries [] List.nodup_nil).1.symm

theorem nodup_lastValues (entries : Entries) : ((lastValues entries).map Prod.fst).Nodup :=
  (foldl_insert entries [] List.nodup_nil).2

theorem foldl_insert_of_nodup (entries : Entries) : ∀ before : Entries,
    (before.map Prod.fst ++ entries.map Prod.fst).Nodup →
      entries.foldl (fun kept entry => insert entry.1 entry.2 kept) before = before ++ entries := by
  induction entries with
  | nil => exact fun _ _ => (List.append_nil _).symm
  | cons entry rest ih =>
      intro before distinct
      have new : entry.1 ∉ before.map Prod.fst := by
        rw [List.nodup_append] at distinct
        exact fun member => distinct.2.2 entry.1 member entry.1 List.mem_cons_self rfl
      rw [List.foldl_cons, insert_of_not_mem entry.2 new, ih]
      · exact List.append_assoc ..
      · simpa using distinct

theorem lastValues_of_nodup {entries : Entries} (distinct : (entries.map Prod.fst).Nodup) :
    lastValues entries = entries :=
  (lastValues_eq_foldl entries).trans (foldl_insert_of_nodup entries [] distinct)

end SourceIndex.Value
