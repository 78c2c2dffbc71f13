import LoadScript.CommandLine.Arguments
import LoadScript.Proofs.Number.Reading
import LoadScript.Proofs.Refusal
import LoadScript.Proofs.Text.Blank
import LoadScript.Run.ProcessEngine

set_option autoImplicit false

namespace LoadScript

namespace Environment

/-! ## Values and the order of keys -/

theorem get?_insert (e : Environment) (key value other : String) :
    (e.insert key value).get? other = if key = other then some value else e.get? other := by
  unfold insert get?
  dsimp only
  generalize e.entries = entries
  induction entries with
  | nil => by_cases same : key = other <;> simp [insertEntry, same]
  | cons entry rest ih =>
    obtain ⟨k, v⟩ := entry
    rw [insertEntry]
    by_cases here : key = k
    · by_cases same : key = other <;> simp [← here, same]
    · rw [if_neg here]
      by_cases before : key < k
      · rw [if_pos before]
        by_cases same : key = other <;> simp [same]
      · rw [if_neg before]
        by_cases same : k = other
        · simp [same, same ▸ here]
        · simpa [same] using ih

theorem insertAll_cons (e : Environment) (entry : String × String)
    (entries : List (String × String)) :
    e.insertAll (entry :: entries) = (e.insert entry.1 entry.2).insertAll entries := rfl

theorem get?_insertAll (e : Environment) (entries : List (String × String)) (key : String) :
    (e.insertAll entries).get? key =
      ((entries.reverse.find? (·.1 = key)).map (·.2)).or (e.get? key) := by
  induction entries generalizing e with
  | nil => rfl
  | cons entry entries ih =>
    rw [insertAll_cons, ih, get?_insert, List.reverse_cons, List.find?_append]
    cases entries.reverse.find? (·.1 = key) with
    | some found => rfl
    | none => by_cases same : entry.1 = key <;> simp [same]

theorem mem_toList_iff {e : Environment} {key value : String} :
    (key, value) ∈ e.toList ↔ e.get? key = some value := by
  obtain ⟨entries, increasing⟩ := e
  unfold toList get?
  dsimp only
  induction entries with
  | nil => simp
  | cons entry rest ih =>
    obtain ⟨k, v⟩ := entry
    obtain ⟨least, tail⟩ := List.pairwise_cons.1 increasing
    by_cases same : k = key
    · have fresh : (key, value) ∉ rest := by
        intro mem
        exact String.lt_irrefl key (same ▸ least key (List.mem_map_of_mem (f := (·.1)) mem))
      simp [same, fresh, eq_comm]
    · simpa [same, Ne.symm same] using ih tail

theorem find?_reverse (e : Environment) (key : String) :
    (e.entries.reverse.find? (·.1 = key)).map (·.2) = e.get? key := by
  cases found : e.entries.reverse.find? (·.1 = key) with
  | none =>
    have absent : e.entries.find? (·.1 = key) = none := by
      rw [List.find?_eq_none] at found ⊢
      exact fun entry mem => found entry (List.mem_reverse.2 mem)
    rw [get?, absent]
  | some entry =>
    have same : entry.1 = key := by simpa using List.find?_some found
    have mem : (key, entry.2) ∈ e.toList := by
      rw [← same]
      exact List.mem_reverse.1 (List.mem_of_find?_eq_some found)
    exact (mem_toList_iff.1 mem).symm

theorem get?_merge (defaults overrides : Environment) (key : String) :
    (defaults.merge overrides).get? key = (overrides.get? key).or (defaults.get? key) := by
  rw [merge, get?_insertAll, find?_reverse]

/-! ## Written pairs -/

/-- The pair is written for the key and gives it the value. Blanks may stand around the key. -/
def Names (pair key value : String) : Prop :=
  ∃ lead trail : List Char, lead.all Chars.isBlank = true ∧ trail.all Chars.isBlank = true ∧
    isKey key.toList = true ∧ pair.toList = lead ++ key.toList ++ trail ++ '=' :: value.toList

def Malformed (pair : String) : Prop := ∀ key value, ¬ Names pair key value

theorem isAsciiLetter_iff {c : Char} : Chars.isAsciiLetter c = true ↔
    (0x61 ≤ c.toNat ∧ c.toNat ≤ 0x7A) ∨ (0x41 ≤ c.toNat ∧ c.toNat ≤ 0x5A) := by
  simp [Chars.isAsciiLetter, Char.le_def, UInt32.le_iff_toNat_le]

theorem bounds_of_mem_key {key : List Char} (h : isKey key = true) {c : Char} (mem : c ∈ key) :
    0x30 ≤ c.toNat ∧ c.toNat ≤ 0x7A ∧ c.toNat ≠ 0x3D := by
  have keyChar : Chars.isAsciiLetter c = true ∨ Chars.isAsciiDigit c = true ∨ c = '_' := by
    cases key with
    | nil => cases mem
    | cons d rest =>
      rw [isKey, Bool.and_eq_true] at h
      obtain rfl | mem := List.mem_cons.1 mem
      · have first := h.1
        rw [Bool.or_eq_true, beq_iff_eq] at first
        exact first.imp_right .inr
      · have later := List.all_eq_true.1 h.2 c mem
        rw [Bool.or_eq_true, Bool.or_eq_true, beq_iff_eq, or_assoc] at later
        exact later
  rw [isAsciiLetter_iff, Chars.isAsciiDigit_iff] at keyChar
  obtain letter | digit | rfl := keyChar
  · omega
  · omega
  · decide

theorem visible_of_mem_key {key : List Char} (h : isKey key = true) {c : Char} (mem : c ∈ key) :
    Chars.isBlank c = false := by
  have bounds := bounds_of_mem_key h mem
  simp only [Chars.isBlank, Bool.or_eq_false_iff, Bool.and_eq_false_iff, decide_eq_false_iff_not,
    beq_eq_false_iff_ne]
  omega

theorem takeWhile_equals {front : List Char} (free : '=' ∉ front) (value : List Char) :
    (front ++ '=' :: value).takeWhile (· != '=') = front ∧
      (front ++ '=' :: value).dropWhile (· != '=') = '=' :: value := by
  have others : ∀ c ∈ front, (c != '=') = true := fun c mem => by
    rw [bne_iff_ne]
    rintro rfl
    exact free mem
  constructor
  · exact Chars.takeWhile_before others (by decide) value
  · rw [List.dropWhile_append_of_pos others, List.dropWhile_cons_of_neg (by decide)]

theorem readPair_of_names {pair key value : String} (h : Names pair key value) :
    readPair pair = .ok (key, value) := by
  obtain ⟨lead, trail, blank, blankEnd, valid, text⟩ := h
  have not_blank {s : List Char} (blanks : s.all Chars.isBlank = true) : '=' ∉ s := by
    intro mem
    cases List.all_eq_true.1 blanks _ mem
  have free : '=' ∉ lead ++ key.toList ++ trail := by
    rw [List.mem_append, List.mem_append, not_or, not_or]
    exact ⟨⟨not_blank blank, fun mem => (bounds_of_mem_key valid mem).2.2 rfl⟩, not_blank blankEnd⟩
  obtain ⟨front, behind⟩ := takeWhile_equals free value.toList
  have trimmed : Chars.trim (lead ++ key.toList ++ trail) = key.toList := by
    refine Chars.dropEndWhile_dropWhile_between blank blankEnd ?_ ?_
    · exact fun c first => visible_of_mem_key valid (List.mem_of_head? first)
    · exact fun c last => visible_of_mem_key valid (List.mem_of_getLast? last)
  rw [← text] at front behind
  simp only [readPair, behind, front, trimmed, valid, if_true, String.ofList_toList]

theorem names_of_readPair {pair key value : String} (h : readPair pair = .ok (key, value)) :
    Names pair key value := by
  unfold readPair at h
  split at h
  · rename_i c rest behind
    dsimp only at h
    split at h
    · rename_i valid
      cases h
      obtain ⟨lead, trail, blank, blankEnd, front⟩ :=
        Chars.exists_blanks_around (pair.toList.takeWhile (· != '='))
      have first : (pair.toList.dropWhile (· != '=')).head? = some c := by
        rw [behind, List.head?_cons]
      have equals : c = '=' :=
        bne_eq_false_iff_eq.1 (Chars.not_of_head?_dropWhile (p := (· != '=')) first)
      rw [equals] at behind
      have whole : pair.toList = pair.toList.takeWhile (· != '=') ++ '=' :: rest := by
        rw [← behind, List.takeWhile_append_dropWhile]
      refine ⟨lead, trail, blank, blankEnd, by rwa [String.toList_ofList], ?_⟩
      rw [String.toList_ofList, String.toList_ofList, ← front]
      exact whole
    · cases h
  · cases h

theorem readPair_eq_error {pair : String} {e : Error} (h : readPair pair = .error e) :
    e = .invalidPair pair := by
  unfold readPair at h
  split at h
  · dsimp only at h
    split at h <;> cases h
    rfl
  · cases h
    rfl

theorem malformed_iff {pair : String} : Malformed pair ↔ ∃ e, readPair pair = .error e := by
  constructor
  · intro malformed
    cases read : readPair pair with
    | ok entry => exact absurd (names_of_readPair read) (malformed entry.1 entry.2)
    | error e => exact ⟨e, rfl⟩
  · rintro ⟨e, refused⟩ key value names
    rw [readPair_of_names names] at refused
    cases refused

/-! ## What all pairs say -/

theorem ofPairs_eq_ok {pairs : List String} {e : Environment} (h : ofPairs pairs = .ok e) :
    ∃ entries, pairs.map readPair = entries.map Except.ok ∧ e = ofList entries := by
  unfold ofPairs at h
  obtain ⟨entries, accepted, values⟩ | ⟨_, _, _, _, -, -, -, refused⟩ := mapM_cases readPair pairs
  · rw [accepted] at h
    cases h
    exact ⟨entries, values, rfl⟩
  · rw [refused] at h
    cases h

theorem ofPairs_eq_error {pairs : List String} {e : Error} (h : ofPairs pairs = .error e) :
    ∃ before pair after, pairs = before ++ pair :: after ∧ (∀ p ∈ before, ¬ Malformed p) ∧
      Malformed pair ∧ e = .invalidPair pair := by
  unfold ofPairs at h
  obtain ⟨entries, accepted, -⟩ | ⟨before, pair, after, d, split, accepted, refused, result⟩ :=
    mapM_cases readPair pairs
  · rw [accepted] at h
    cases h
  · rw [result] at h
    cases h
    refine ⟨before, pair, after, split, ?_, malformed_iff.2 ⟨_, refused⟩, readPair_eq_error refused⟩
    intro p mem malformed
    obtain ⟨entry, ok⟩ := accepted p mem
    exact malformed entry.1 entry.2 (names_of_readPair ok)

theorem exists_error_iff {pairs : List String} :
    (∃ e, ofPairs pairs = .error e) ↔ ∃ pair ∈ pairs, Malformed pair := by
  constructor
  · rintro ⟨e, refused⟩
    obtain ⟨before, pair, after, split, -, malformed, -⟩ := ofPairs_eq_error refused
    exact ⟨pair, by simp [split], malformed⟩
  · rintro ⟨pair, mem, malformed⟩
    cases result : ofPairs pairs with
    | error e => exact ⟨e, rfl⟩
    | ok overrides =>
      obtain ⟨entries, read, -⟩ := ofPairs_eq_ok result
      have accepted : readPair pair ∈ entries.map Except.ok := read ▸ List.mem_map_of_mem mem
      obtain ⟨entry, -, same⟩ := List.mem_map.1 accepted
      exact absurd (names_of_readPair same.symm) (malformed entry.1 entry.2)

def isFor (key pair : String) : Bool :=
  match readPair pair with
  | .ok entry => entry.1 = key
  | .error _ => false

theorem isFor_iff {key pair : String} : isFor key pair = true ↔ ∃ value, Names pair key value := by
  unfold isFor
  constructor
  · split
    · rename_i entry read
      intro same
      rw [← of_decide_eq_true same]
      exact ⟨entry.2, names_of_readPair read⟩
    · intro h
      cases h
  · rintro ⟨value, names⟩
    rw [readPair_of_names names]
    exact decide_eq_true rfl

theorem find?_entries {pairs : List String} {entries : List (String × String)}
    (read : pairs.map readPair = entries.map Except.ok) (key : String) :
    (entries.reverse.find? (·.1 = key)).map Except.ok =
      (pairs.reverse.find? (isFor key)).map readPair := by
  have found := congrArg (fun results => results.reverse.find? fun result : Except Error _ =>
    match result with
    | .ok entry => decide (entry.1 = key)
    | .error _ => false) read
  simp only [← List.map_reverse, List.find?_map] at found
  exact found.symm

theorem get?_ofPairs {pairs : List String} {e : Environment} (h : ofPairs pairs = .ok e)
    (key : String) :
    (e.get? key).map (fun value => Except.ok (key, value)) =
      (pairs.reverse.find? (isFor key)).map readPair := by
  obtain ⟨entries, read, rfl⟩ := ofPairs_eq_ok h
  rw [ofList, get?_insertAll, ← find?_entries read]
  cases found : entries.reverse.find? (·.1 = key) with
  | none => rfl
  | some entry =>
    have same : entry.1 = key := by simpa using List.find?_some found
    rw [← same]
    rfl

/-- The value is what the last pair for the key gives. -/
def LastNamed (pairs : List String) (key value : String) : Prop :=
  ∃ before pair after, pairs = before ++ pair :: after ∧ Names pair key value ∧
    ∀ later ∈ after, ∀ v, ¬ Names later key v

theorem lastNamed_iff_find? {pairs : List String} {key value : String} :
    LastNamed pairs key value ↔
      ∃ pair, pairs.reverse.find? (isFor key) = some pair ∧ Names pair key value := by
  simp only [List.find?_eq_some_iff_append, isFor_iff]
  constructor
  · rintro ⟨before, pair, after, rfl, names, unnamed⟩
    refine ⟨pair, ⟨⟨value, names⟩, after.reverse, before.reverse, by simp, ?_⟩, names⟩
    intro later mem
    rw [Bool.not_eq_true', ← Bool.not_eq_true, isFor_iff, not_exists]
    exact unnamed later (List.mem_reverse.1 mem)
  · rintro ⟨pair, ⟨-, after, before, split, others⟩, names⟩
    refine ⟨before.reverse, pair, after.reverse, ?_, names, ?_⟩
    · rw [← List.reverse_reverse pairs, split]
      simp
    · intro later mem
      have other := others later (List.mem_reverse.1 mem)
      rwa [Bool.not_eq_true', ← Bool.not_eq_true, isFor_iff, not_exists] at other

theorem lastNamed_iff {pairs : List String} {e : Environment} (h : ofPairs pairs = .ok e)
    {key value : String} : LastNamed pairs key value ↔ e.get? key = some value := by
  have both := get?_ofPairs h key
  rw [lastNamed_iff_find?]
  constructor
  · rintro ⟨pair, found, names⟩
    rw [found, Option.map_some, readPair_of_names names] at both
    obtain ⟨v, given, same⟩ := Option.map_eq_some_iff.1 both
    cases same
    exact given
  · intro given
    rw [given, Option.map_some] at both
    obtain ⟨pair, found, read⟩ := Option.map_eq_some_iff.1 both.symm
    exact ⟨pair, found, names_of_readPair read⟩

theorem unnamed_iff {pairs : List String} {e : Environment} (h : ofPairs pairs = .ok e)
    {key : String} : (∀ pair ∈ pairs, ∀ v, ¬ Names pair key v) ↔ e.get? key = none := by
  have none_iff : e.get? key = none ↔ pairs.reverse.find? (isFor key) = none := by
    rw [← Option.map_eq_none_iff (f := fun value => Except.ok (ε := Error) (key, value)),
      get?_ofPairs h, Option.map_eq_none_iff]
  rw [none_iff, List.find?_eq_none]
  simp only [List.mem_reverse, isFor_iff, not_exists]

/-- What a script is told under a key: what the last pair for it gives, or a setting if there is no
such pair. -/
def Told (s : Settings) (pairs : List String) (key value : String) : Prop :=
  LastNamed pairs key value ∨
    (∀ pair ∈ pairs, ∀ v, ¬ Names pair key v) ∧
      (key, value) ∈ [("BASE_URL", s.baseUrl), ("USERNAME", s.username), ("PASSWORD", s.password)]

theorem defaultEnvironment_toList (s : Settings) : s.defaultEnvironment.toList =
    [("BASE_URL", s.baseUrl), ("PASSWORD", s.password), ("USERNAME", s.username)] := by
  rfl

theorem mem_merge_iff {pairs : List String} {overrides : Environment}
    (h : ofPairs pairs = .ok overrides) (s : Settings) {key value : String} :
    (key, value) ∈ (s.defaultEnvironment.merge overrides).toList ↔ Told s pairs key value := by
  have default_iff : s.defaultEnvironment.get? key = some value ↔ (key, value) ∈
      [("BASE_URL", s.baseUrl), ("USERNAME", s.username), ("PASSWORD", s.password)] := by
    rw [← mem_toList_iff, defaultEnvironment_toList]
    exact ((List.Perm.swap _ _ _).cons _).mem_iff
  rw [mem_toList_iff, get?_merge, Option.or_eq_some_iff, Told, lastNamed_iff h, unnamed_iff h,
    default_iff]

theorem isKey_of_told {s : Settings} {pairs : List String} {key value : String}
    (told : Told s pairs key value) : isKey key.toList = true := by
  obtain ⟨_, _, _, -, names, -⟩ | ⟨-, mem⟩ := told
  · obtain ⟨_, _, -, -, valid, -⟩ := names
    exact valid
  · have keys : ["BASE_URL", "USERNAME", "PASSWORD"].all (fun key => isKey key.toList) = true := by
      decide
    exact List.all_eq_true.1 keys key (List.mem_map_of_mem (f := Prod.fst) mem)

/-! ## Arguments of the engine -/

theorem readPair_written {key : String} (valid : isKey key.toList = true) (value : String) :
    readPair (key ++ "=" ++ value) = .ok (key, value) :=
  readPair_of_names ⟨[], [], rfl, rfl, valid, by simp [String.toList_append]⟩

theorem readPair_of_mem_merge {pairs : List String} {overrides : Environment}
    (h : ofPairs pairs = .ok overrides) (s : Settings) :
    ∀ entry ∈ (s.defaultEnvironment.merge overrides).toList,
      readPair (entry.1 ++ "=" ++ entry.2) = .ok entry := by
  intro entry mem
  exact readPair_written (isKey_of_told ((mem_merge_iff h s).1 mem)) entry.2

/-- Entries that can be read back are known by the arguments that they become. -/
theorem eq_of_written {l k : List (String × String)}
    (read_l : ∀ entry ∈ l, readPair (entry.1 ++ "=" ++ entry.2) = .ok entry)
    (read_k : ∀ entry ∈ k, readPair (entry.1 ++ "=" ++ entry.2) = .ok entry)
    (same : l.flatMap (fun (key, value) => ["-e", key ++ "=" ++ value]) =
      k.flatMap fun (key, value) => ["-e", key ++ "=" ++ value]) : l = k := by
  induction l generalizing k with
  | nil =>
    cases k with
    | nil => rfl
    | cons entry k => cases same
  | cons entry l ih =>
    cases k with
    | nil => cases same
    | cons other k =>
      rw [List.flatMap_cons, List.flatMap_cons] at same
      obtain ⟨first, rest⟩ := List.append_inj same rfl
      have text : entry.1 ++ "=" ++ entry.2 = other.1 ++ "=" ++ other.2 :=
        (List.cons.inj (List.cons.inj first).2).1
      have read := read_l entry List.mem_cons_self
      rw [text, read_k other List.mem_cons_self] at read
      cases read
      rw [List.forall_mem_cons] at read_l read_k
      rw [ih read_l.2 read_k.2 rest]

theorem arguments_inj {script other : String} {e d : Environment}
    (read_e : ∀ entry ∈ e.toList, readPair (entry.1 ++ "=" ++ entry.2) = .ok entry)
    (read_d : ∀ entry ∈ d.toList, readPair (entry.1 ++ "=" ++ entry.2) = .ok entry)
    (same : Engine.arguments script e = Engine.arguments other d) : script = other ∧ e = d := by
  unfold Engine.arguments at same
  obtain ⟨written, last⟩ := List.append_inj' (List.cons.inj same).2 rfl
  have entries : e.toList = d.toList := eq_of_written read_e read_d written
  cases e
  cases d
  cases entries
  exact ⟨(List.cons.inj last).1, rfl⟩

end Environment

open Environment

/-- Pairs are refused exactly when one of them is malformed, and the first such one is named.
Otherwise the arguments list, in increasing order of the keys, all that a script is told; each pair
among them is read back, so the arguments settle the script and its environment. -/
theorem Arguments.environment_reaches_engine :
    (∀ a : Arguments, (∃ e, a.overrides = .error e) ↔ ∃ pair ∈ a.environment, Malformed pair) ∧
    (∀ (a : Arguments) (e : Error), a.overrides = .error e →
      ∃ before pair after, a.environment = before ++ pair :: after ∧
        (∀ p ∈ before, ¬ Malformed p) ∧ Malformed pair ∧ e = .invalidPair pair) ∧
    (∀ (a : Arguments) (overrides : Environment), a.overrides = .ok overrides →
      ∀ (s : Settings) (script : String), ∃ entries : List (String × String),
        (entries.map (·.1)).Pairwise (· < ·) ∧
        (∀ key value, (key, value) ∈ entries ↔ Told s a.environment key value) ∧
        Engine.arguments script (s.defaultEnvironment.merge overrides) =
          "run" :: entries.flatMap (fun (key, value) => ["-e", key ++ "=" ++ value]) ++ [script] ∧
        ∀ entry ∈ entries, readPair (entry.1 ++ "=" ++ entry.2) = .ok entry) ∧
    ∀ (a b : Arguments) (oa ob : Environment), a.overrides = .ok oa → b.overrides = .ok ob →
      ∀ (s t : Settings) (script other : String),
        Engine.arguments script (s.defaultEnvironment.merge oa) =
          Engine.arguments other (t.defaultEnvironment.merge ob) →
        script = other ∧ s.defaultEnvironment.merge oa = t.defaultEnvironment.merge ob := by
  refine ⟨fun _ => exists_error_iff, fun _ _ refused => ofPairs_eq_error refused, ?_, ?_⟩
  · intro a overrides accepted s script
    exact ⟨_, (s.defaultEnvironment.merge overrides).increasing, fun key value => mem_merge_iff accepted s, rfl,
      readPair_of_mem_merge accepted s⟩
  · intro a b oa ob accepted_a accepted_b s t script other same
    exact arguments_inj (readPair_of_mem_merge accepted_a s)
      (readPair_of_mem_merge accepted_b t) same

namespace Arguments

def oddPairs : Arguments := { environment := [" A =1", "BASE_URL=x=y", "A\t= -e"] }

def plainPairs : Arguments := { environment := ["BASE_URL=x=y", "A= -e"] }

def badPairs : Arguments := { environment := ["A=1", "1A=2", "B"] }

theorem oddPairs_reach_engine :
    (∃ pair ∈ badPairs.environment, Malformed pair) ∧
    (∃ before after, badPairs.environment = before ++ "1A=2" :: after ∧ Malformed "1A=2") ∧
    (∃ entries : List (String × String),
      (∀ key value, (key, value) ∈ entries ↔ Told .defaults oddPairs.environment key value) ∧
      ["run", "-e", "A= -e", "-e", "BASE_URL=x=y", "-e", "PASSWORD=loadtest123", "-e",
        "USERNAME=loadtest@example.com", "s.js"] =
        "run" :: entries.flatMap (fun (key, value) => ["-e", key ++ "=" ++ value]) ++ ["s.js"]) ∧
    ∃ odd plain, oddPairs.overrides = .ok odd ∧ plainPairs.overrides = .ok plain ∧
      Settings.defaults.defaultEnvironment.merge odd =
        Settings.defaults.defaultEnvironment.merge plain := by
  obtain ⟨refused, first, listed, settled⟩ := environment_reaches_engine
  have bad : badPairs.overrides = .error (.invalidPair "1A=2") := by rfl
  have accepted : oddPairs.overrides = .ok ⟨[("A", " -e"), ("BASE_URL", "x=y")], by decide⟩ := by rfl
  have plain : plainPairs.overrides = .ok ⟨[("A", " -e"), ("BASE_URL", "x=y")], by decide⟩ := by rfl
  refine ⟨(refused badPairs).1 ⟨_, bad⟩, ?_, ?_, _, _, accepted, plain, ?_⟩
  · obtain ⟨before, pair, after, split, -, malformed, same⟩ := first badPairs _ bad
    cases same
    exact ⟨before, after, split, malformed⟩
  · obtain ⟨entries, -, told, arguments, -⟩ := listed oddPairs _ accepted .defaults "s.js"
    exact ⟨entries, told, arguments⟩
  · exact (settled oddPairs plainPairs _ _ accepted plain .defaults .defaults "s.js" "s.js" rfl).2

end Arguments

end LoadScript
