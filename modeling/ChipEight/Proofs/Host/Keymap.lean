import ChipEight.Host.Keymap
import Mathlib.Data.List.Forall2
import Mathlib.Data.List.Nodup
import Mathlib.Data.Set.Function

/-!
# Which keymaps are accepted

The reader of a keymap goes through the fields in turn: it reads a number, replaces it by its
lower-case form if codes are characters, and looks for it among the codes it has already got. Here
this loop is said in one line, as a relation between the fields and the codes that they denote
(`addFields_eq_ok_iff`), and the codes it has got are always different, so that looking a code up is
a matter of membership (`key?_eq_some_iff`).

Two theorems come of it. Where every number listed can be replaced, a keymap is accepted exactly if
its sixteen fields denote sixteen different codes, and any other one is reported as a bad keymap
(`accepts_iff`). Where one cannot, the reader fails with what the lower-casing of that number fails
with, unless a field in front of it was found out first (`unreported_iff`).
-/

namespace ChipEight.Keymap

variable {lower : Bool} {field text : String} {code n : Int} {key : Key} {failure : Failure}

/-! ### The code of a field -/

/-- The character with one code has the character with the other as its lower-case form. -/
def LowersTo (n code : Int) : Prop :=
  0 ≤ n ∧ n ≤ maxCharacter ∧ ∃ c, Lowercase.ofCode? n.toNat = some c ∧ code = c

/-- The code that a field stands for: the whole number written there, or its lower-case form. -/
def Denotes (lower : Bool) (field : String) (code : Int) : Prop :=
  ∃ n, Numeral.read? .ten field = some n ∧ if lower then LowersTo n code else code = n

/-- Only one character has no lower-case form of one character. -/
theorem ofCode?_eq_none_iff {c : Nat} :
    Lowercase.ofCode? c = none ↔ c = Lowercase.twoCharacterCode := by
  unfold Lowercase.ofCode?
  split
  · simp [*]
  · split <;> simp [*]

theorem lowerCode_eq_ok_iff : lowerCode n = .ok code ↔ LowersTo n code := by
  unfold lowerCode LowersTo maxCharacter
  split
  · exact iff_of_false (by simp) (by omega)
  · split
    · exact iff_of_false (by simp) (by omega)
    · rcases Lowercase.ofCode? n.toNat with - | c
      · simp
      · simp only [Except.ok.injEq, Option.some.injEq, exists_eq_left']
        constructor
        · intro h
          exact ⟨by omega, by omega, h.symm⟩
        · intro h
          exact h.2.2.symm

theorem LowersTo.unique {other : Int} (h : LowersTo n code) (hother : LowersTo n other) :
    code = other :=
  Except.ok.inj ((lowerCode_eq_ok_iff.2 h).symm.trans (lowerCode_eq_ok_iff.2 hother))

/-- **What has no lower-case form**: numbers that are no character, and one character. -/
theorem lowerCode_eq_error_iff :
    (∃ failure, lowerCode n = .error failure) ↔ n < 0 ∨ 0x10FFFF < n ∨ n = 0x130 := by
  have hcode : Lowercase.twoCharacterCode = 0x130 := rfl
  unfold lowerCode maxCharacter
  split
  · exact iff_of_true ⟨_, rfl⟩ (by omega)
  · split
    · exact iff_of_true ⟨_, rfl⟩ (by omega)
    · rcases hlower : Lowercase.ofCode? n.toNat with - | c
      · have htwo := ofCode?_eq_none_iff.1 hlower
        exact iff_of_true ⟨_, rfl⟩ (by omega)
      · have htwo : n.toNat ≠ Lowercase.twoCharacterCode := fun htwo ↦ by
          rw [ofCode?_eq_none_iff.2 htwo] at hlower
          cases hlower
        exact iff_of_false (by simp) (by omega)

/-- The failure of lower-casing is no problem of the keymap. -/
theorem lowerCode_ne_keymap (problem : KeymapProblem) :
    lowerCode n ≠ .error (.keymap problem) := by
  unfold lowerCode
  split
  · simp
  · split
    · simp
    · split <;> simp

theorem fieldCode_eq_ok_iff : fieldCode lower field = .ok code ↔ Denotes lower field code := by
  unfold fieldCode Denotes
  rcases Numeral.read? .ten field with - | n
  · simp
  · cases lower
    · simp [eq_comm]
    · simp [lowerCode_eq_ok_iff]

theorem fieldCode_eq_error_iff :
    fieldCode lower field = .error failure ↔
      (Numeral.read? .ten field = none ∧ failure = .keymap .notWhole) ∨
        lower = true ∧ ∃ n, Numeral.read? .ten field = some n ∧ lowerCode n = .error failure := by
  unfold fieldCode
  rcases Numeral.read? .ten field with - | n
  · simp [eq_comm]
  · cases lower <;> simp

/-! ### The codes of a keymap -/

/-- The codes that stand for keys, in turn. -/
def codes (m : Keymap) : List Int :=
  m.entries.map Prod.fst

variable {m : Keymap}

theorem key?_isSome_iff : (m.key? code).isSome ↔ code ∈ m.codes := by
  unfold key? codes
  rw [Option.isSome_map, List.find?_isSome]
  simp

/-- **Different codes** are looked up as they were entered. -/
theorem key?_eq_some_iff (hcodes : m.codes.Nodup) :
    m.key? code = some key ↔ (code, key) ∈ m.entries := by
  unfold codes at hcodes
  unfold key?
  rw [Option.map_eq_some_iff]
  constructor
  · rintro ⟨⟨other, _⟩, hfind, rfl⟩
    have hcode : other = code := by simpa using List.find?_some hfind
    exact hcode ▸ List.mem_of_find?_eq_some hfind
  · intro hmem
    rcases hfind : m.entries.find? (fun entry ↦ entry.1 == code) with - | entry
    · exact absurd (List.find?_eq_none.1 hfind _ hmem) (by simp)
    · have hcode : entry.1 = code := by simpa using List.find?_some hfind
      have hentry : entry = (code, key) :=
        List.inj_on_of_nodup_map hcodes (List.mem_of_find?_eq_some hfind) hmem hcode
      exact ⟨entry, hfind, congrArg Prod.snd hentry⟩

/-! ### Adding fields -/

/-- A field is read, and its code is looked for among the codes so far. -/
theorem addField_eq (m : Keymap) (lower : Bool) (key : Key) (field : String) :
    m.addField lower key field =
      match fieldCode lower field with
      | .error failure => .error failure
      | .ok code =>
        if code ∈ m.codes then .error (.keymap .duplicate)
        else .ok ⟨m.entries ++ [(code, key)]⟩ := by
  unfold addField
  rcases fieldCode lower field with failure | code
  · rfl
  · simp only [← key?_isSome_iff]
    show (if _ then _ else _) = (if _ then _ else _)
    split <;> rfl

theorem addField_eq_ok_iff {n : Keymap} :
    m.addField lower key field = .ok n ↔
      ∃ code, Denotes lower field code ∧ code ∉ m.codes ∧ n = ⟨m.entries ++ [(code, key)]⟩ := by
  rw [addField_eq]
  simp only [← fieldCode_eq_ok_iff]
  rcases fieldCode lower field with failure | code
  · simp
  · by_cases htaken : code ∈ m.codes
    · simp [htaken]
    · simp [htaken, eq_comm]

/-- A field is refused for its own sake, or for a code that is taken. -/
theorem addField_eq_error_iff :
    m.addField lower key field = .error failure ↔
      fieldCode lower field = .error failure ∨
        ∃ code, Denotes lower field code ∧ code ∈ m.codes ∧ failure = .keymap .duplicate := by
  rw [addField_eq]
  simp only [← fieldCode_eq_ok_iff]
  rcases fieldCode lower field with other | code
  · simp
  · by_cases htaken : code ∈ m.codes
    · simp [htaken, eq_comm]
    · simp [htaken]

/-- The keymap after fields with their keys were added in turn. -/
def addFields (lower : Bool) (m : Keymap) (pairs : List (Key × String)) : Except Failure Keymap :=
  pairs.foldlM (fun m (key, field) ↦ m.addField lower key field) m

theorem addFields_cons (key : Key) (field : String) (rest : List (Key × String)) :
    addFields lower m ((key, field) :: rest) =
      m.addField lower key field >>= fun n ↦ addFields lower n rest :=
  List.foldlM_cons

/-- A keymap is read by adding its fields, if there are sixteen of them. -/
theorem parse_eq (lower : Bool) (text : String) :
    parse lower text =
      if (Fields.split ',' text).length ≠ 16 then .error (.keymap .wrongCount)
      else addFields lower ⟨[]⟩ (Key.all.zip (Fields.split ',' text)) := rfl

/-- **Fields that are added** denote different codes, none of which was there, and each code stands
for the key that its field was given with. -/
theorem addFields_eq_ok_iff {pairs : List (Key × String)} {n : Keymap} :
    addFields lower m pairs = .ok n ↔
      ∃ codes, List.Forall₂ (Denotes lower) (pairs.map Prod.snd) codes ∧ codes.Nodup ∧
        (∀ code ∈ codes, code ∉ m.codes) ∧
        n = ⟨m.entries ++ codes.zip (pairs.map Prod.fst)⟩ := by
  -- A field that was added leaves a longer keymap to the rest, so the keymap is general.
  induction pairs generalizing m with
  | nil =>
    show Except.ok m = .ok n ↔ _
    simp [eq_comm]
  | cons pair rest ih =>
    obtain ⟨key, field⟩ := pair
    rw [addFields_cons]
    constructor
    · intro h
      rcases hadd : m.addField lower key field with failure | added
      · rw [hadd] at h
        cases h
      · rw [hadd] at h
        obtain ⟨code, hdenotes, hfree, rfl⟩ := addField_eq_ok_iff.1 hadd
        obtain ⟨codes, hrest, hnodup, hnew, rfl⟩ := ih.1 h
        have hcodes : ∀ other ∈ codes, other ∉ m.codes ∧ other ≠ code := by
          intro other hother
          simpa [Keymap.codes] using hnew other hother
        refine ⟨code :: codes, .cons hdenotes hrest, ?_, ?_, ?_⟩
        · exact List.nodup_cons.2 ⟨fun hmem ↦ (hcodes code hmem).2 rfl, hnodup⟩
        · exact List.forall_mem_cons.2 ⟨hfree, fun other hother ↦ (hcodes other hother).1⟩
        · simp
    · rintro ⟨_, hdenotes, hnodup, hnew, rfl⟩
      obtain ⟨code, codes, hfield, hrest, rfl⟩ := List.forall₂_cons_left_iff.1 hdenotes
      obtain ⟨hfresh, hnodup⟩ := List.nodup_cons.1 hnodup
      obtain ⟨hfree, hnew⟩ := List.forall_mem_cons.1 hnew
      rw [addField_eq_ok_iff.2 ⟨code, hfield, hfree, rfl⟩]
      refine ih.2 ⟨codes, hrest, hnodup, fun other hother ↦ ?_, by simp⟩
      have hne : other ≠ code := fun heq ↦ hfresh (heq ▸ hother)
      simpa [Keymap.codes, hne] using hnew other hother

/-- **Fields that are refused** are refused at one of them, when those in front of it were added. -/
theorem addFields_eq_error_iff {pairs : List (Key × String)} :
    addFields lower m pairs = .error failure ↔
      ∃ before key field after n, pairs = before ++ (key, field) :: after ∧
        addFields lower m before = .ok n ∧ n.addField lower key field = .error failure := by
  induction pairs generalizing m with
  | nil =>
    show Except.ok m = .error failure ↔ _
    simp
  | cons pair rest ih =>
    obtain ⟨key, field⟩ := pair
    rw [addFields_cons]
    constructor
    · intro h
      rcases hadd : m.addField lower key field with other | added
      · rw [hadd] at h
        cases h
        exact ⟨[], key, field, rest, m, rfl, rfl, hadd⟩
      · rw [hadd] at h
        obtain ⟨before, other, refused, after, n, rfl, hbefore, hrefused⟩ := ih.1 h
        refine ⟨(key, field) :: before, other, refused, after, n, rfl, ?_, hrefused⟩
        rw [addFields_cons, hadd]
        exact hbefore
    · rintro ⟨before, other, refused, after, n, hpairs, hbefore, hrefused⟩
      rcases before with - | ⟨first, before⟩
      · cases hpairs
        cases hbefore
        rw [hrefused]
        rfl
      · obtain ⟨rfl, rfl⟩ := List.cons.inj hpairs
        rw [addFields_cons] at hbefore
        rcases hadd : m.addField lower key field with failed | added
        · rw [hadd] at hbefore
          cases hbefore
        · rw [hadd] at hbefore
          exact ih.2 ⟨before, other, refused, after, n, rfl, hbefore, hrefused⟩

/-! ### What a text lists -/

/-- A text lists codes for the keys in turn: one for each of sixteen fields, and all different. -/
structure Lists (lower : Bool) (text : String) (codes : List Int) : Prop where
  /-- Each field denotes its code. -/
  denotes : List.Forall₂ (Denotes lower) (Fields.split ',' text) codes
  /-- There is a code for each key. -/
  count : codes.length = 16
  /-- No code is listed twice. -/
  distinct : codes.Nodup

/-- The keymap that a text is read as gives each key the code listed for it. -/
theorem parse_eq_ok_iff :
    parse lower text = .ok m ↔ ∃ codes, Lists lower text codes ∧ m = ⟨codes.zip Key.all⟩ := by
  rw [parse_eq]
  by_cases hcount : (Fields.split ',' text).length = 16
  · have hlength : (Fields.split ',' text).length = Key.all.length := hcount
    rw [if_neg (not_not_intro hcount), addFields_eq_ok_iff, List.map_fst_zip hlength.ge,
      List.map_snd_zip hlength.le]
    constructor
    · rintro ⟨codes, hdenotes, hnodup, -, rfl⟩
      exact ⟨codes, ⟨hdenotes, hdenotes.length_eq.symm.trans hcount, hnodup⟩, rfl⟩
    · rintro ⟨codes, hlists, rfl⟩
      exact ⟨codes, hlists.denotes, hlists.distinct, fun _ _ ↦ List.not_mem_nil, rfl⟩
  · rw [if_pos hcount]
    refine iff_of_false (by simp) ?_
    rintro ⟨codes, hlists, -⟩
    exact hcount (hlists.denotes.length_eq.trans hlists.count)

/-- The keys given to fields are split where the fields are. -/
theorem exists_zip_keys {before after : List String}
    (hcount : (before ++ field :: after).length = 16) :
    ∃ (keys : List Key) (key : Key) (others : List Key), keys.length = before.length ∧
      Key.all.zip (before ++ field :: after) =
        keys.zip before ++ (key, field) :: others.zip after := by
  have hlt : before.length < Key.all.length := by
    rw [show Key.all.length = 16 from rfl, ← hcount, List.length_append, List.length_cons]
    omega
  have hfront : (Key.all.take before.length).length = before.length := by
    rw [List.length_take, min_eq_left hlt.le]
  refine ⟨Key.all.take before.length, Key.all[before.length], Key.all.drop (before.length + 1),
    hfront, ?_⟩
  rw [← List.zip_cons_cons, ← List.drop_eq_getElem_cons hlt, ← List.zip_append hfront,
    List.take_append_drop]

/-- **How a text is refused**: for its number of fields, or at a field, when those in front of it
denote different codes: because it denotes none, or one of these. -/
theorem parse_eq_error_iff :
    parse lower text = .error failure ↔
      ((Fields.split ',' text).length ≠ 16 ∧ failure = .keymap .wrongCount) ∨
        (Fields.split ',' text).length = 16 ∧ ∃ before field after codes,
          Fields.split ',' text = before ++ field :: after ∧
          List.Forall₂ (Denotes lower) before codes ∧ codes.Nodup ∧
          (fieldCode lower field = .error failure ∨
            ∃ code, Denotes lower field code ∧ code ∈ codes ∧ failure = .keymap .duplicate) := by
  rw [parse_eq]
  by_cases hcount : (Fields.split ',' text).length = 16
  · have hlength : (Fields.split ',' text).length = Key.all.length := hcount
    rw [if_neg (not_not_intro hcount), addFields_eq_error_iff]
    simp only [hcount, ne_eq, not_true, false_and, false_or, true_and]
    constructor
    · rintro ⟨before, key, field, after, n, hpairs, hbefore, hrefused⟩
      obtain ⟨codes, hdenotes, hnodup, -, rfl⟩ := addFields_eq_ok_iff.1 hbefore
      have hfields := congrArg (List.map Prod.snd) hpairs
      rw [List.map_snd_zip hlength.le, List.map_append, List.map_cons] at hfields
      have hcodes : Keymap.codes ⟨[] ++ codes.zip (before.map Prod.fst)⟩ = codes := by
        have hle := hdenotes.length_eq.symm.le
        rw [List.length_map] at hle
        exact List.map_fst_zip (by rwa [List.length_map])
      rw [addField_eq_error_iff, hcodes] at hrefused
      exact ⟨_, field, _, codes, hfields, hdenotes, hnodup, hrefused⟩
    · rintro ⟨before, field, after, codes, hfields, hdenotes, hnodup, hrefused⟩
      obtain ⟨keys, key, others, hfront, hpairs⟩ := exists_zip_keys (hfields ▸ hcount)
      rw [← hfields] at hpairs
      have hadded : addFields lower ⟨[]⟩ (keys.zip before) = .ok ⟨codes.zip keys⟩ :=
        addFields_eq_ok_iff.2 ⟨codes, by rwa [List.map_snd_zip hfront.ge], hnodup,
          fun _ _ ↦ List.not_mem_nil, by rw [List.map_fst_zip hfront.le, List.nil_append]⟩
      have hcodes : Keymap.codes ⟨codes.zip keys⟩ = codes :=
        List.map_fst_zip (by rw [hfront, hdenotes.length_eq])
      refine ⟨_, key, field, _, _, hpairs, hadded, ?_⟩
      rwa [addField_eq_error_iff, hcodes]
  · simp [hcount, eq_comm]

namespace Lists

variable {codes : List Int}

/-- A code stands for the key that it is listed for. -/
theorem key?_eq_some_iff (h : Lists lower text codes) :
    key? ⟨codes.zip Key.all⟩ code = some key ↔ codes[key.val]? = some code := by
  have hcodes : Keymap.codes ⟨codes.zip Key.all⟩ = codes :=
    List.map_fst_zip (Nat.le_of_eq h.count)
  have hkey (i : Nat) : Key.all[i]? = some key ↔ i = key.val := by
    rw [Key.all, List.getElem?_eq_some_iff]
    constructor
    · rintro ⟨hi, rfl⟩
      simp
    · rintro rfl
      exact ⟨by simp, by simp⟩
  rw [Keymap.key?_eq_some_iff (hcodes.symm ▸ h.distinct), List.mem_iff_getElem?]
  simp only [List.getElem?_zip_eq_some, hkey]
  constructor
  · rintro ⟨_, hcode, rfl⟩
    exact hcode
  · exact fun hcode ↦ ⟨key.val, hcode, rfl⟩

/-- The codes listed and the keys are in bijection. -/
theorem bijOn_key? (h : Lists lower text codes) :
    Set.BijOn (key? ⟨codes.zip Key.all⟩) {code | code ∈ codes} (Set.range some) := by
  refine ⟨fun code hcode ↦ ?_, fun code hcode other hother hkeys ↦ ?_, ?_⟩
  · obtain ⟨i, hi⟩ := List.mem_iff_getElem?.1 hcode
    have hlt : i < 16 := h.count ▸ (List.getElem?_eq_some_iff.1 hi).1
    exact ⟨⟨i, hlt⟩, (h.key?_eq_some_iff.2 hi).symm⟩
  · obtain ⟨i, hi⟩ := List.mem_iff_getElem?.1 hcode
    have hlt : i < 16 := h.count ▸ (List.getElem?_eq_some_iff.1 hi).1
    have hkey : key? ⟨codes.zip Key.all⟩ code = some ⟨i, hlt⟩ := h.key?_eq_some_iff.2 hi
    have hsame := h.key?_eq_some_iff.1 (hkeys ▸ hkey)
    exact Option.some.inj (hi.symm.trans hsame)
  · rintro _ ⟨key, rfl⟩
    have hlt : key.val < codes.length := h.count.symm ▸ key.isLt
    exact ⟨codes[key.val], List.getElem_mem hlt,
      h.key?_eq_some_iff.2 (List.getElem?_eq_getElem hlt)⟩

end Lists

/-- The code that a text gives a key: the one that the key's field denotes. -/
def Assigns (lower : Bool) (text : String) (key : Key) (code : Int) : Prop :=
  ∃ field, (Fields.split ',' text)[key.val]? = some field ∧ Denotes lower field code

theorem Denotes.unique {other : Int} (h : Denotes lower field code)
    (hother : Denotes lower field other) : code = other :=
  Except.ok.inj ((fieldCode_eq_ok_iff.2 h).symm.trans (fieldCode_eq_ok_iff.2 hother))

/-- A key has one code at most. -/
theorem Assigns.unique {other : Int} (h : Assigns lower text key code)
    (hother : Assigns lower text key other) : code = other := by
  obtain ⟨field, hfield, hcode⟩ := h
  obtain ⟨_, hsame, hdenotes⟩ := hother
  obtain rfl := Option.some.inj (hfield.symm.trans hsame)
  exact hcode.unique hdenotes

/-- The codes listed are those that the keys have. -/
theorem Lists.assigns_iff {codes : List Int} (h : Lists lower text codes) :
    Assigns lower text key code ↔ codes[key.val]? = some code := by
  obtain ⟨hlength, hdenotes⟩ := List.forall₂_iff_get.1 h.denotes
  have hlt : key.val < codes.length := h.count.symm ▸ key.isLt
  have hfields : key.val < (Fields.split ',' text).length := hlength ▸ hlt
  have hlisted : Assigns lower text key codes[key.val] :=
    ⟨_, List.getElem?_eq_getElem hfields, hdenotes key.val hfields hlt⟩
  rw [List.getElem?_eq_getElem hlt, Option.some_inj]
  exact ⟨hlisted.unique, fun heq ↦ heq ▸ hlisted⟩

/-- **A keymap that was read** has each code stand for the key that the text gives it. -/
theorem key?_of_parse (h : parse lower text = .ok m) :
    m.key? code = some key ↔ Assigns lower text key code := by
  obtain ⟨codes, hlists, rfl⟩ := parse_eq_ok_iff.1 h
  rw [hlists.key?_eq_some_iff, hlists.assigns_iff]

/-- A text that was read gives each key a code. -/
theorem exists_assigns (h : parse lower text = .ok m) (key : Key) :
    ∃ code, Assigns lower text key code := by
  obtain ⟨codes, hlists, rfl⟩ := parse_eq_ok_iff.1 h
  have hlt : key.val < codes.length := hlists.count.symm ▸ key.isLt
  exact ⟨_, hlists.assigns_iff.2 (List.getElem?_eq_getElem hlt)⟩

/-! ### Acceptance -/

/-- **Which keymaps are accepted.** Where codes are numbers, or every number listed is that of a
character with a lower-case form of one character, a keymap is accepted exactly if its text lists
sixteen different codes for the keys. It then has sixteen entries, each code stands for the key that
it is listed for, and the codes and the keys are in bijection. Any other text is reported as a bad
keymap. -/
theorem accepts_iff (lower : Bool) (text : String)
    (hlower : lower = true → ∀ field ∈ Fields.split ',' text, ∀ n,
      Numeral.read? .ten field = some n → ∃ code, LowersTo n code) :
    ((∃ m, parse lower text = .ok m) ↔ ∃ codes, Lists lower text codes) ∧
      (∀ m, parse lower text = .ok m → m.entries.length = 16 ∧
        ∃ codes, Lists lower text codes ∧
          (∀ code key, m.key? code = some key ↔ codes[key.val]? = some code) ∧
          Set.BijOn m.key? {code | code ∈ codes} (Set.range some)) ∧
      ∀ failure, parse lower text = .error failure → ∃ problem, failure = .keymap problem := by
  simp only [parse_eq_ok_iff]
  refine ⟨⟨?_, ?_⟩, ?_, ?_⟩
  · rintro ⟨_, codes, hlists, -⟩
    exact ⟨codes, hlists⟩
  · rintro ⟨codes, hlists⟩
    exact ⟨_, codes, hlists, rfl⟩
  · rintro _ ⟨codes, hlists, rfl⟩
    have hlength : (codes.zip Key.all).length = 16 := by
      rw [List.length_zip, hlists.count]
      rfl
    exact ⟨hlength, codes, hlists, fun _ _ ↦ hlists.key?_eq_some_iff, hlists.bijOn_key?⟩
  · intro failure hfails
    obtain ⟨-, rfl⟩ | ⟨-, before, field, after, codes, hfields, -, -, hrefused⟩ :=
      parse_eq_error_iff.1 hfails
    · exact ⟨_, rfl⟩
    · obtain hfield | ⟨code, -, -, rfl⟩ := hrefused
      · obtain ⟨-, rfl⟩ | ⟨hforced, n, hread, hfailed⟩ := fieldCode_eq_error_iff.1 hfield
        · exact ⟨_, rfl⟩
        · have hmem : field ∈ Fields.split ',' text := by
            rw [hfields]
            exact List.mem_append_right before List.mem_cons_self
          obtain ⟨code, hlowers⟩ := hlower hforced field hmem n hread
          rw [lowerCode_eq_ok_iff.2 hlowers] at hfailed
          cases hfailed
      · exact ⟨_, rfl⟩

/-- The usual layout in capital letters. -/
def capitals : String :=
  "88,49,50,51,81,87,69,65,83,68,90,67,52,82,70,86"

/-- The codes of the usual layout, whose letters are small. -/
def smallCodes : List Int :=
  [120, 49, 50, 51, 113, 119, 101, 97, 115, 100, 122, 99, 52, 114, 102, 118]

/-- The usual layout in capital letters is accepted, and gives each key the code of its small
letter. -/
theorem accepts_iff_capitals :
    (true = true → ∀ field ∈ Fields.split ',' capitals, ∀ n,
      Numeral.read? .ten field = some n → ∃ code, LowersTo n code) ∧
    Lists true capitals smallCodes ∧
    ∃ m, parse true capitals = .ok m ∧
      ∀ code key, m.key? code = some key ↔ smallCodes[key.val]? = some code := by
  have hlower : ∀ field ∈ Fields.split ',' capitals, ∀ n,
      Numeral.read? .ten field = some n → ∃ code, LowersTo n code := by
    have hchecked : ∀ field ∈ Fields.split ',' capitals,
        ((Numeral.read? .ten field).all fun n ↦ (lowerCode n).toBool) = true := by decide +kernel
    intro field hfield n hread
    have hcode := hchecked field hfield
    rw [hread, Option.all_some] at hcode
    rcases hlowered : lowerCode n with failure | code
    · rw [hlowered] at hcode
      cases hcode
    · exact ⟨code, lowerCode_eq_ok_iff.1 hlowered⟩
  have hread : parse true capitals = .ok ⟨smallCodes.zip Key.all⟩ := by decide +kernel
  obtain ⟨-, haccepted, -⟩ := accepts_iff true capitals fun _ ↦ hlower
  obtain ⟨-, codes, hlists, hkeys, -⟩ := haccepted _ hread
  -- The keymap that was read tells which codes are listed.
  have hcodes : codes = smallCodes := by
    have hsame := hread.symm.trans (parse_eq_ok_iff.2 ⟨codes, hlists, rfl⟩)
    have hfirst := congrArg (fun m ↦ m.entries.map Prod.fst) (Except.ok.inj hsame)
    have hlength : codes.length ≤ Key.all.length := hlists.count.le
    exact ((List.map_fst_zip hlength).symm.trans hfirst.symm).trans (by decide)
  subst hcodes
  exact ⟨fun _ ↦ hlower, hlists, _, hread, hkeys⟩

/-! ### What is not reported as a bad keymap -/

/-- **Where the report is missing.** Reading a keymap fails with something else than a problem of
the keymap exactly if codes are characters, there are sixteen fields, and at one of them, when those
in front of it denote different codes, a number is written that is no character, or the one
character without a lower-case form of one character. The failure is that of lower-casing this
number. -/
theorem unreported_iff (lower : Bool) (text : String) (failure : Failure) :
    (parse lower text = .error failure ∧ ∀ problem, failure ≠ .keymap problem) ↔
      lower = true ∧ (Fields.split ',' text).length = 16 ∧ ∃ before field after codes n,
        Fields.split ',' text = before ++ field :: after ∧
        List.Forall₂ (Denotes true) before codes ∧ codes.Nodup ∧
        Numeral.read? .ten field = some n ∧ (n < 0 ∨ 0x10FFFF < n ∨ n = 0x130) ∧
        lowerCode n = .error failure := by
  constructor
  · rintro ⟨hfails, hother⟩
    obtain ⟨-, rfl⟩ | ⟨hcount, before, field, after, codes, hfields, hdenotes, hnodup, hrefused⟩ :=
      parse_eq_error_iff.1 hfails
    · exact absurd rfl (hother _)
    · obtain hfield | ⟨_, -, -, rfl⟩ := hrefused
      · obtain ⟨-, rfl⟩ | ⟨rfl, n, hread, hlower⟩ := fieldCode_eq_error_iff.1 hfield
        · exact absurd rfl (hother _)
        · exact ⟨rfl, hcount, before, field, after, codes, n, hfields, hdenotes, hnodup, hread,
            lowerCode_eq_error_iff.1 ⟨failure, hlower⟩, hlower⟩
      · exact absurd rfl (hother _)
  · rintro ⟨rfl, hcount, before, field, after, codes, n, hfields, hdenotes, hnodup, hread, -,
      hlower⟩
    refine ⟨?_, ?_⟩
    · exact parse_eq_error_iff.2 (.inr ⟨hcount, before, field, after, codes, hfields, hdenotes,
        hnodup, .inl (fieldCode_eq_error_iff.2 (.inr ⟨rfl, n, hread, hlower⟩))⟩)
    · rintro problem rfl
      exact lowerCode_ne_keymap problem hlower

/-- A code below zero is no character, and its failure is not one of the keymap. -/
theorem not_reported_of_negative :
    ¬ ((∃ m, parse true "-1,200,201,202,203,204,205,206,207,208,209,210,211,212,213,214" = .ok m) ∨
      ∃ problem, parse true "-1,200,201,202,203,204,205,206,207,208,209,210,211,212,213,214" =
        .error (.keymap problem)) := by
  have hfails : parse true "-1,200,201,202,203,204,205,206,207,208,209,210,211,212,213,214" =
      .error (.noCharacter (-1)) := rfl
  rw [hfails]
  simp

end ChipEight.Keymap
