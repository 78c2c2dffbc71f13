import LoadScript.Proofs.Tags

/-!
# Lists with keys

Several tables grow in the same way: an input changes the entry with its key where it stands, or
is appended as a new entry. Such a table has one entry for each key, in the order in which the keys
came first, and an entry is what the inputs with its key make of it one after another.
-/

set_option autoImplicit false

namespace LoadScript

theorem distinct_concat {α : Type} [DecidableEq α] (l : List α) (a : α) :
    distinct (l ++ [a]) = if a ∈ l then distinct l else distinct l ++ [a] := by
  rw [distinct_append]
  by_cases known : a ∈ l <;> simp [distinct, known]

theorem getLast?_filter_split {α : Type} {p : α → Bool} {a : α} (kept : p a = true)
    (earlier later : List α) : ((earlier ++ a :: later).filter p).getLast? =
      some ((later.filter p).getLast?.getD a) := by
  rw [List.filter_append, List.filter_cons_of_pos kept, List.getLast?_append, List.getLast?_cons,
    Option.some_or]

theorem getLast?_filter_of_index {α : Type} {p : α → Bool} {l : List α} {i : Nat} {a : α}
    (here : l[i]? = some a) (kept : p a = true)
    (later : ∀ j b, i < j → l[j]? = some b → p b = false) : (l.filter p).getLast? = some a := by
  obtain ⟨bound, value⟩ := List.getElem?_eq_some_iff.1 here
  have split : l = l.take i ++ a :: l.drop (i + 1) := by
    rw [← value, List.getElem_cons_drop, List.take_append_drop]
  have none_later : (l.drop (i + 1)).filter p = [] := by
    rw [List.filter_eq_nil_iff]
    intro b mem
    obtain ⟨j, found⟩ := List.mem_iff_getElem?.1 mem
    rw [List.getElem?_drop] at found
    simp [later (i + 1 + j) b (by omega) found]
  rw [split, getLast?_filter_split kept, none_later]
  rfl

namespace Keyed

section Upsert

variable {β κ : Type} [DecidableEq κ]

/-- Changes the entry with the key `k`, or appends `fresh` if there is none. -/
def upsert (key : β → κ) (k : κ) (fresh : β) (change : β → β) : List β → List β
  | [] => [fresh]
  | b :: rest => if key b = k then change b :: rest else b :: upsert key k fresh change rest

variable {key : β → κ} {k : κ} {fresh : β} {change : β → β} {bs : List β}

theorem upsert_of_not_mem (absent : k ∉ bs.map key) :
    upsert key k fresh change bs = bs ++ [fresh] := by
  induction bs with
  | nil => rfl
  | cons b rest ih =>
    rw [List.map_cons, List.mem_cons, not_or] at absent
    rw [upsert, if_neg (Ne.symm absent.1), ih absent.2, List.cons_append]

theorem upsert_of_mem (present : k ∈ bs.map key) (nodup : (bs.map key).Nodup) :
    upsert key k fresh change bs = bs.map fun b => if key b = k then change b else b := by
  induction bs with
  | nil => cases present
  | cons b rest ih =>
    rw [List.map_cons, List.nodup_cons] at nodup
    by_cases same : key b = k
    · have others : ∀ c ∈ rest, key c ≠ k := by
        rintro c hc rfl
        exact nodup.1 (same ▸ List.mem_map_of_mem hc)
      have kept : rest.map (fun c => if key c = k then change c else c) = rest := by
        rw [List.map_congr_left fun c hc => if_neg (others c hc), List.map_id']
      rw [upsert, if_pos same, List.map_cons, if_pos same, kept]
    · have later : k ∈ rest.map key := by
        rw [List.map_cons, List.mem_cons] at present
        exact present.resolve_left (Ne.symm same)
      rw [upsert, if_neg same, List.map_cons, if_neg same, ih later nodup.2]

theorem upsert_eq_self {b : β} (mem : b ∈ bs) (nodup : (bs.map key).Nodup)
    (kept : change b = b) : upsert key (key b) fresh change bs = bs := by
  rw [upsert_of_mem (List.mem_map_of_mem mem) nodup]
  have fixed : ∀ c ∈ bs, (if key c = key b then change c else c) = c := by
    intro c hc
    by_cases same : key c = key b
    · rw [if_pos same, List.inj_on_of_nodup_map nodup hc mem same, kept]
    · rw [if_neg same]
  rw [List.map_congr_left fixed, List.map_id']

end Upsert

section Collect

variable {α β κ : Type} [DecidableEq κ]

/-- How inputs make the entries of a table. -/
structure Policy (α β κ : Type) where
  key : β → κ
  inputKey : α → κ
  fresh : α → β
  change : α → β → β
  key_fresh : ∀ a, key (fresh a) = inputKey a
  key_change : ∀ a b, key b = inputKey a → key (change a b) = key b

namespace Policy

variable (π : Policy α β κ)

def add (bs : List β) (a : α) : List β :=
  upsert π.key (π.inputKey a) (π.fresh a) (π.change a) bs

def collect (inputs : List α) : List β := inputs.foldl π.add []

/-- What an input makes of the entry with its key, if there is one. -/
def advance (entry : Option β) (a : α) : Option β := some (entry.elim (π.fresh a) (π.change a))

/-- What the inputs for a key make one after another. -/
def entry (inputs : List α) (k : κ) : Option β :=
  (inputs.filter fun a => π.inputKey a = k).foldl π.advance none

theorem entry_concat (inputs : List α) (a : α) (k : κ) :
    π.entry (inputs ++ [a]) k =
      if π.inputKey a = k then π.advance (π.entry inputs k) a else π.entry inputs k := by
  unfold entry
  by_cases same : π.inputKey a = k
  · rw [List.filter_append, List.filter_cons_of_pos (by simpa using same), if_pos same,
      List.foldl_append]
    rfl
  · rw [List.filter_append, List.filter_cons_of_neg (by simpa using same), if_neg same,
      List.filter_nil, List.append_nil]

theorem entry_of_not_mem {inputs : List α} {k : κ} (absent : k ∉ inputs.map π.inputKey) :
    π.entry inputs k = none := by
  have unused : inputs.filter (fun a => π.inputKey a = k) = [] := by
    rw [List.filter_eq_nil_iff]
    intro a ha same
    exact absent (of_decide_eq_true same ▸ List.mem_map_of_mem ha)
  rw [entry, unused]
  rfl

/-- The table `bs` is what the inputs make: its keys are theirs, each where it came first, and an
entry is what the inputs for its key make. -/
structure Collects (inputs : List α) (bs : List β) : Prop where
  keys : bs.map π.key = distinct (inputs.map π.inputKey)
  entries : ∀ b ∈ bs, π.entry inputs (π.key b) = some b

namespace Collects

variable {π} {inputs : List α} {bs : List β} {a : α}

theorem nodup (h : π.Collects inputs bs) : (bs.map π.key).Nodup := h.keys ▸ distinct_nodup _

/-- Looking a key up gives what the inputs for it make. -/
theorem find?_eq (h : π.Collects inputs bs) (k : κ) :
    bs.find? (fun b => π.key b = k) = π.entry inputs k := by
  cases found : bs.find? (fun b => π.key b = k) with
  | some b =>
    have same : π.key b = k := by simpa using List.find?_some found
    rw [← same, h.entries b (List.mem_of_find?_eq_some found)]
  | none =>
    have absent : k ∉ inputs.map π.inputKey := by
      rw [← mem_distinct, ← h.keys, List.mem_map]
      rintro ⟨b, mem, same⟩
      exact absurd same (by simpa using List.find?_eq_none.1 found b mem)
    exact (entry_of_not_mem π absent).symm

theorem add_known (h : π.Collects inputs bs) (known : π.inputKey a ∈ inputs.map π.inputKey) :
    π.Collects (inputs ++ [a]) (π.add bs a) := by
  have present : π.inputKey a ∈ bs.map π.key := by rwa [h.keys, mem_distinct]
  have same_key (b : β) :
      π.key (if π.key b = π.inputKey a then π.change a b else b) = π.key b := by
    split
    · exact π.key_change a b ‹_›
    · rfl
  have changed : π.add bs a = bs.map fun b => if π.key b = π.inputKey a then π.change a b else b :=
    upsert_of_mem present h.nodup
  constructor
  · rw [changed, List.map_append, List.map_cons, List.map_nil, distinct_concat, if_pos known,
      ← h.keys, List.map_map]
    exact List.map_congr_left fun b _ => same_key b
  · intro c hc
    rw [changed] at hc
    obtain ⟨b, hb, rfl⟩ := List.mem_map.1 hc
    rw [same_key, entry_concat, h.entries b hb]
    by_cases same : π.key b = π.inputKey a
    · rw [if_pos same, if_pos same.symm]
      rfl
    · rw [if_neg same, if_neg (Ne.symm same)]

theorem add_unknown (h : π.Collects inputs bs) (unknown : π.inputKey a ∉ inputs.map π.inputKey) :
    π.Collects (inputs ++ [a]) (π.add bs a) := by
  have absent : π.inputKey a ∉ bs.map π.key := by rwa [h.keys, mem_distinct]
  have appended : π.add bs a = bs ++ [π.fresh a] := upsert_of_not_mem absent
  constructor
  · rw [appended, List.map_append, List.map_append, List.map_cons, List.map_nil, List.map_cons,
      List.map_nil, distinct_concat, if_neg unknown, h.keys, π.key_fresh]
  · intro c hc
    rw [appended, List.mem_append, List.mem_singleton] at hc
    obtain hc | rfl := hc
    · have other : π.inputKey a ≠ π.key c := fun same => absent (same ▸ List.mem_map_of_mem hc)
      rw [entry_concat, if_neg other, h.entries c hc]
    · rw [π.key_fresh, entry_concat, if_pos rfl, entry_of_not_mem π unknown]
      rfl

end Collects

theorem collects_collect (inputs : List α) : π.Collects inputs (π.collect inputs) := by
  induction inputs using List.reverseRecOn with
  | nil => exact ⟨rfl, by simp [collect]⟩
  | append_singleton inputs a ih =>
    have step : π.collect (inputs ++ [a]) = π.add (π.collect inputs) a := by
      simp [collect, List.foldl_append]
    rw [step]
    by_cases known : π.inputKey a ∈ inputs.map π.inputKey
    · exact ih.add_known known
    · exact ih.add_unknown known

theorem collect_keys (inputs : List α) :
    (π.collect inputs).map π.key = distinct (inputs.map π.inputKey) :=
  (π.collects_collect inputs).keys

theorem collect_keys_nodup (inputs : List α) : ((π.collect inputs).map π.key).Nodup :=
  π.collect_keys inputs ▸ distinct_nodup _

theorem collect_map_some (inputs : List α) :
    (π.collect inputs).map some = (distinct (inputs.map π.inputKey)).map (π.entry inputs) := by
  rw [← π.collect_keys, List.map_map]
  exact List.map_congr_left fun b hb => ((π.collects_collect inputs).entries b hb).symm

def replacing (key : α → κ) : Policy α α κ where
  key := key
  inputKey := key
  fresh := id
  change a _ := a
  key_fresh _ := rfl
  key_change _ _ same := same.symm

theorem replacing_entry (key : α → κ) (inputs : List α) (k : κ) :
    (replacing key).entry inputs k = (inputs.filter fun a => key a = k).getLast? := by
  have last (as : List α) : as.foldl (replacing key).advance none = as.getLast? := by
    induction as using List.reverseRecOn with
    | nil => rfl
    | append_singleton as a _ =>
      rw [List.foldl_append, List.getLast?_concat]
      cases as.foldl (replacing key).advance none <;> rfl
  exact last _

end Policy

end Collect

end Keyed

end LoadScript
