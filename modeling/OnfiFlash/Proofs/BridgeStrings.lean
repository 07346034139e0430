import Mathlib.Data.List.Nodup
import OnfiFlash.Proofs.Numerals

/-! What bridge strings say. Keys, values and names may hold every character but the separators that
would end them, the last value of a key counts, and a string is refused only for a piece without an
equals sign. -/
namespace OnfiFlash

section Separators

variable {separator : Char} {cs before after : List Char}

theorem splitFirst_eq_none_iff : splitFirst separator cs = none ↔ separator ∉ cs := by
  induction cs with
  | nil => simp [splitFirst]
  | cons c rest ih =>
    rw [splitFirst]
    split
    · next same => simp [same]
    · next different => simp [ih, Ne.symm different]

/-- The cut is made at the first separator, whatever stands behind it. -/
theorem splitFirst_append (free : separator ∉ before) :
    splitFirst separator (before ++ separator :: after) = some (before, after) := by
  induction before with
  | nil => rw [List.nil_append, splitFirst, if_pos rfl]
  | cons c rest ih =>
    have different : c ≠ separator := (List.ne_of_not_mem_cons free).symm
    rw [List.cons_append, splitFirst, if_neg different, ih (List.not_mem_of_not_mem_cons free)]
    rfl

theorem of_splitFirst_eq_some (cut : splitFirst separator cs = some (before, after)) :
    cs = before ++ separator :: after ∧ separator ∉ before := by
  induction cs generalizing before with
  | nil => cases cut
  | cons c rest ih =>
    rw [splitFirst] at cut
    split at cut
    · next same =>
      subst same
      cases cut
      exact ⟨rfl, List.not_mem_nil⟩
    · next different =>
      obtain ⟨⟨begun, behind⟩, cutRest, same⟩ := Option.map_eq_some_iff.mp cut
      cases same
      obtain ⟨whole, free⟩ := ih cutRest
      exact ⟨congrArg (c :: ·) whole,
        List.not_mem_cons_of_ne_of_not_mem (Ne.symm different) free⟩

/-- The characters are these pieces with separators between them. -/
structure Divided (separator : Char) (cs : List Char) (pieces : List (List Char)) : Prop where
  some : pieces ≠ []
  free : ∀ piece ∈ pieces, separator ∉ piece
  joined : [separator].intercalate pieces = cs

theorem splitAll_eq_splitOn : splitAll separator cs = cs.splitOn separator := by
  induction cs with
  | nil => rfl
  | cons c rest ih =>
    rw [splitAll, ih, List.splitOn_cons_eq_if_modifyHead]
    cases divided : rest.splitOn separator with
    | nil => exact absurd divided (List.splitOn_ne_nil _ _)
    | cons piece pieces => by_cases same : c = separator <;> simp [same]

theorem free_of_mem_splitAll {piece : List Char} (among : piece ∈ splitAll separator cs) :
    separator ∉ piece := by
  induction cs generalizing piece with
  | nil =>
    obtain rfl := List.mem_singleton.mp among
    exact List.not_mem_nil
  | cons c rest ih =>
    rw [splitAll] at among
    split at among
    · next nothing =>
      rw [splitAll_eq_splitOn] at nothing
      exact absurd nothing (List.splitOn_ne_nil _ _)
    · next first others divided =>
      simp only [divided, List.mem_cons] at ih
      split at among
      · rcases List.mem_cons.mp among with rfl | later
        · exact List.not_mem_nil
        · exact ih (List.mem_cons.mp later)
      · next different =>
        rcases List.mem_cons.mp among with rfl | later
        · simpa [Ne.symm different] using ih (.inl rfl)
        · exact ih (.inr later)

/-- There is but one way to divide. -/
theorem divided_iff {pieces : List (List Char)} :
    Divided separator cs pieces ↔ splitAll separator cs = pieces := by
  constructor
  · rintro ⟨some, free, rfl⟩
    rw [splitAll_eq_splitOn]
    exact List.splitOn_intercalate separator free some
  · rintro rfl
    refine ⟨?_, fun _ => free_of_mem_splitAll, ?_⟩
    · rw [splitAll_eq_splitOn]
      exact List.splitOn_ne_nil _ _
    · rw [splitAll_eq_splitOn]
      exact List.intercalate_splitOn separator

end Separators

namespace Bridge

/-- The last of the pairs with this key has this value, white space at the ends of either aside. -/
inductive GivenLast (key value : String) : List (String × String) → Prop where
  | here {k v : String} {rest : List (String × String)} (keyed : Trimmed k.toList key.toList)
      (valued : Trimmed v.toList value.toList)
      (last : ∀ later ∈ rest, ¬ Trimmed later.1.toList key.toList) :
      GivenLast key value ((k, v) :: rest)
  | behind {pair : String × String} {rest : List (String × String)}
      (later : GivenLast key value rest) : GivenLast key value (pair :: rest)

/-- A key and a value that make up one parameter when an equals sign is put between them. -/
structure Plain (pair : String × String) : Prop where
  key : '=' ∉ pair.1.toList
  keyWhole : ',' ∉ pair.1.toList
  valueWhole : ',' ∉ pair.2.toList

/-- A bridge string with these pairs of keys and values as its parameters. -/
def written (name : String) (pairs : List (String × String)) : String :=
  name ++ ":" ++ ",".intercalate (pairs.map fun pair => pair.1 ++ "=" ++ pair.2)

/-- The first piece without an equals sign among those behind the name. -/
def FirstUnkeyed (text : String) (piece : List Char) : Prop :=
  ∃ name options before after, text.toList = name ++ ':' :: options ∧ ':' ∉ name ∧ options ≠ [] ∧
    Divided ',' options (before ++ piece :: after) ∧
    (∀ earlier ∈ before, '=' ∈ earlier) ∧ '=' ∉ piece

section Parameters

variable {key value : String} {parameters : List (String × String)}

private theorem lookup_entry (first kept other : String) (rest : List (String × String)) :
    ((first, kept) :: rest).lookup other =
      if other = first then some kept else rest.lookup other := by
  rw [List.lookup_cons]
  by_cases same : other = first
  · simp [same]
  · rw [if_neg same, beq_false_of_ne same]

theorem lookup_setParameter (key value other : String) (parameters : List (String × String)) :
    (setParameter key value parameters).lookup other =
      if other = key then some value else parameters.lookup other := by
  induction parameters with
  | nil => exact lookup_entry key value other []
  | cons entry rest ih =>
    obtain ⟨first, kept⟩ := entry
    rw [setParameter]
    by_cases here : first = key
    · subst here
      rw [if_pos rfl, lookup_entry, lookup_entry]
      split <;> rfl
    · rw [if_neg here, lookup_entry, lookup_entry, ih]
      by_cases same : other = first
      · subst same
        rw [if_pos rfl, if_pos rfl, if_neg here]
      · rw [if_neg same, if_neg same]

theorem keys_setParameter (key value : String) (parameters : List (String × String)) :
    (setParameter key value parameters).map Prod.fst =
      if key ∈ parameters.map Prod.fst then parameters.map Prod.fst
      else parameters.map Prod.fst ++ [key] := by
  induction parameters with
  | nil => rfl
  | cons entry rest ih =>
    obtain ⟨first, kept⟩ := entry
    rw [setParameter]
    by_cases here : first = key
    · simp [here]
    · rw [if_neg here, List.map_cons, ih]
      by_cases among : key ∈ rest.map Prod.fst <;> simp [among, Ne.symm here]

/-- No key comes twice. -/
theorem nodup_setParameter (distinct : (parameters.map Prod.fst).Nodup) (key value : String) :
    ((setParameter key value parameters).map Prod.fst).Nodup := by
  rw [keys_setParameter]
  split
  · exact distinct
  · next fresh =>
    rw [← List.concat_eq_append]
    exact List.Nodup.concat fresh distinct

/-- What a pair of a key and a value does to the parameters before it. -/
def setPair (parameters : List (String × String)) (pair : String × String) :
    List (String × String) :=
  setParameter (String.ofList (trimBlanks pair.1.toList)) (String.ofList (trimBlanks pair.2.toList))
    parameters

theorem nodup_setPairs {pairs : List (String × String)}
    (distinct : (parameters.map Prod.fst).Nodup) :
    ((pairs.foldl setPair parameters).map Prod.fst).Nodup := by
  induction pairs generalizing parameters with
  | nil => exact distinct
  | cons pair rest ih => exact ih (nodup_setParameter distinct _ _)

theorem eq_trimmed_iff {text core : String} :
    core = String.ofList (trimBlanks text.toList) ↔ Trimmed text.toList core.toList := by
  rw [trimmed_iff, ← String.toList_inj, String.toList_ofList, eq_comm]

/-- By induction on the pairs: a pair counts unless a later one has its key. -/
theorem lookup_setPairs {pairs : List (String × String)} :
    (pairs.foldl setPair parameters).lookup key = some value ↔
      GivenLast key value pairs ∨ (∀ pair ∈ pairs, ¬ Trimmed pair.1.toList key.toList) ∧
        parameters.lookup key = some value := by
  induction pairs generalizing parameters with
  | nil =>
    simp only [List.foldl_nil, List.not_mem_nil, false_implies, implies_true, true_and]
    exact ⟨.inr, fun given => given.resolve_left nofun⟩
  | cons pair rest ih =>
    obtain ⟨k, v⟩ := pair
    rw [List.foldl_cons, ih, setPair, lookup_setParameter, List.forall_mem_cons]
    constructor
    · rintro (later | ⟨last, found⟩)
      · exact .inl (.behind later)
      · split at found
        · next keyed =>
          have valued := (Option.some.inj found).symm
          exact .inl (.here (eq_trimmed_iff.mp keyed) (eq_trimmed_iff.mp valued) last)
        · next other => exact .inr ⟨⟨mt eq_trimmed_iff.mpr other, last⟩, found⟩
    · rintro (given | ⟨⟨other, last⟩, found⟩)
      · cases given with
        | here keyed valued last =>
          refine .inr ⟨last, ?_⟩
          rw [if_pos (eq_trimmed_iff.mpr keyed), eq_trimmed_iff.mpr valued]
        | behind later => exact .inl later
      · refine .inr ⟨last, ?_⟩
        rw [if_neg (mt eq_trimmed_iff.mp other)]
        exact found

/-- The characters that make up one parameter. -/
def piece (pair : String × String) : List Char := pair.1.toList ++ '=' :: pair.2.toList

theorem readParameters_pairs {pairs : List (String × String)}
    (plain : ∀ pair ∈ pairs, Plain pair) :
    readParameters (pairs.map piece) parameters = .ok (pairs.foldl setPair parameters) := by
  induction pairs generalizing parameters with
  | nil => rfl
  | cons pair rest ih =>
    obtain ⟨first, plainRest⟩ := List.forall_mem_cons.mp plain
    rw [List.map_cons, readParameters, piece, splitFirst_append first.key]
    exact ih plainRest

/-- Only a piece without an equals sign is refused, and the first one is named. -/
theorem readParameters_error_iff {pieces : List (List Char)} {e : SpecError} :
    readParameters pieces parameters = .error e ↔
      ∃ before piece after, pieces = before ++ piece :: after ∧
        (∀ earlier ∈ before, '=' ∈ earlier) ∧ '=' ∉ piece ∧ e = .format (String.ofList piece) := by
  induction pieces generalizing parameters with
  | nil => simp [readParameters]
  | cons first rest ih =>
    rw [readParameters]
    cases cut : splitFirst '=' first with
    | none =>
      have unkeyed := splitFirst_eq_none_iff.mp cut
      constructor
      · rintro ⟨⟩
        exact ⟨[], first, rest, rfl, nofun, unkeyed, rfl⟩
      · rintro ⟨before, piece, after, whole, keyed, -, rfl⟩
        cases before with
        | nil =>
          obtain ⟨rfl, -⟩ := List.cons.inj whole
          rfl
        | cons earlier others =>
          obtain ⟨rfl, -⟩ := List.cons.inj whole
          exact absurd (keyed _ List.mem_cons_self) unkeyed
    | some parts =>
      have keyed : '=' ∈ first := by
        rw [(of_splitFirst_eq_some cut).1]
        exact List.mem_append_right _ List.mem_cons_self
      dsimp only
      rw [ih]
      constructor
      · rintro ⟨before, piece, after, rfl, keyedBefore, unkeyed, rfl⟩
        exact ⟨first :: before, piece, after, rfl, List.forall_mem_cons.mpr ⟨keyed, keyedBefore⟩,
          unkeyed, rfl⟩
      · rintro ⟨before, piece, after, whole, keyedBefore, unkeyed, rfl⟩
        cases before with
        | nil =>
          obtain ⟨rfl, -⟩ := List.cons.inj whole
          exact absurd keyed unkeyed
        | cons earlier others =>
          obtain ⟨rfl, rfl⟩ := List.cons.inj whole
          exact ⟨others, piece, after, rfl, (List.forall_mem_cons.mp keyedBefore).2, unkeyed, rfl⟩

end Parameters

namespace Spec

/-- The pieces of what stands behind the name. -/
def pieces (options : List Char) : List (List Char) :=
  if options.isEmpty then [] else splitAll ',' options

theorem parse_of_colon {text : String} {name options : List Char}
    (whole : text.toList = name ++ ':' :: options) (free : ':' ∉ name) :
    parse text = (readParameters (pieces options) []).map fun parameters =>
      ⟨String.ofList name, parameters⟩ := by
  rw [parse, whole, splitFirst_append free]
  rfl

theorem parse_of_no_colon {text : String} (free : ':' ∉ text.toList) :
    parse text = .ok ⟨text, []⟩ := by
  rw [parse, splitFirst_eq_none_iff.mpr free]
  simp [readParameters, Except.map]

theorem pieces_eq_iff {options : List Char} {list : List (List Char)} (some : list ≠ []) :
    pieces options = list ↔ options ≠ [] ∧ Divided ',' options list := by
  rw [pieces]
  split
  · next nothing =>
    exact iff_of_false some.symm fun held => held.1 (List.isEmpty_iff.mp nothing)
  · next present =>
    rw [divided_iff]
    exact (and_iff_right (mt List.isEmpty_iff.mpr present)).symm

theorem toList_written (name : String) (pairs : List (String × String)) :
    (written name pairs).toList
      = name.toList ++ ':' :: [','].intercalate (pairs.map piece) := by
  have pieces : (pairs.map fun pair => pair.1 ++ "=" ++ pair.2).map String.toList
      = pairs.map piece := by
    rw [List.map_map]
    exact List.map_congr_left fun pair _ => by simp [piece]
  rw [written, String.toList_append, String.toList_append, String.toList_intercalate, pieces,
    List.append_assoc]
  rfl

/-- What is written as several parameters is taken for as many. -/
theorem pieces_written {pairs : List (String × String)} (plain : ∀ pair ∈ pairs, Plain pair) :
    pieces ([','].intercalate (pairs.map piece)) = pairs.map piece := by
  cases pairs with
  | nil => rfl
  | cons pair rest =>
    refine (pieces_eq_iff (by simp)).mpr ⟨?_, by simp, fun _ among => ?_, rfl⟩
    · cases rest <;> simp [piece, List.intercalate]
    · obtain ⟨one, member, rfl⟩ := List.mem_map.mp among
      simp [piece, (plain one member).keyWhole, (plain one member).valueWhole]

theorem parse_written {name : String} {pairs : List (String × String)}
    (free : ':' ∉ name.toList) (plain : ∀ pair ∈ pairs, Plain pair) :
    parse (written name pairs) = .ok ⟨name, pairs.foldl setPair []⟩ := by
  rw [parse_of_colon (toList_written name pairs) free, pieces_written plain,
    readParameters_pairs plain, String.ofList_toList]
  rfl

theorem parse_error_iff {text : String} {e : SpecError} :
    parse text = .error e ↔
      ∃ piece, FirstUnkeyed text piece ∧ e = .format (String.ofList piece) := by
  cases cut : splitFirst ':' text.toList with
  | none =>
    have free := splitFirst_eq_none_iff.mp cut
    rw [parse_of_no_colon free]
    refine iff_of_false nofun ?_
    rintro ⟨_, ⟨name, options, _, _, whole, -⟩, -⟩
    exact free (whole ▸ List.mem_append_right _ List.mem_cons_self)
  | some parts =>
    obtain ⟨name, options⟩ := parts
    obtain ⟨whole, free⟩ := of_splitFirst_eq_some cut
    have raised : parse text = .error e ↔ readParameters (pieces options) [] = .error e := by
      rw [parse_of_colon whole free]
      cases readParameters (pieces options) [] <;> simp [Except.map]
    rw [raised, readParameters_error_iff]
    constructor
    · rintro ⟨before, piece, after, divided, keyed, unkeyed, same⟩
      obtain ⟨present, divided⟩ := (pieces_eq_iff (by simp)).mp divided
      exact ⟨piece, ⟨name, options, before, after, whole, free, present, divided, keyed, unkeyed⟩,
        same⟩
    · rintro ⟨piece, first, same⟩
      obtain ⟨_, _, before, after, wholeToo, freeToo, present, divided, keyed, unkeyed⟩ := first
      -- both cuts are made at the first colon
      rw [wholeToo, splitFirst_append freeToo] at cut
      cases cut
      exact ⟨before, piece, after, (pieces_eq_iff (by simp)).mpr ⟨present, divided⟩, keyed, unkeyed,
        same⟩

/-- A name without a colon and any parameters, however they are spaced and whatever their values
hold but commas, are read as they were written: the name, and for each key the value that it is
given last. For no text is anything refused but a parameter without an equals sign, of which the
first is named. -/
theorem parse_reads :
    (∀ (name : String) (pairs : List (String × String)), ':' ∉ name.toList →
      (∀ pair ∈ pairs, Plain pair) →
      ∃ spec, parse (written name pairs) = .ok spec ∧ spec.name = name ∧
        (spec.parameters.map Prod.fst).Nodup ∧
        ∀ key value, spec.parameter? key = some value ↔ GivenLast key value pairs) ∧
    ∀ (text : String) (e : SpecError), parse text = .error e ↔
      ∃ piece, FirstUnkeyed text piece ∧ e = .format (String.ofList piece) := by
  refine ⟨fun name pairs free plain => ?_, fun text e => parse_error_iff⟩
  refine ⟨_, parse_written free plain, rfl, nodup_setPairs List.nodup_nil, fun key value => ?_⟩
  show (pairs.foldl setPair []).lookup key = some value ↔ GivenLast key value pairs
  rw [lookup_setPairs]
  simp

/-- A key that is given twice with other spacing, a value that holds separators, and an empty
piece. -/
theorem parse_reads_respaced :
    let pairs := [("vid", "0x1209"), (" pid", "a=b:c"), ("vid ", "\t7 ")]
    ':' ∉ "usb".toList ∧ (∀ pair ∈ pairs, Plain pair) ∧
    (∃ spec, parse "usb:vid=0x1209, pid=a=b:c,vid =\t7 " = .ok spec ∧ spec.name = "usb" ∧
      spec.parameter? "vid" = some "7" ∧ spec.parameter? "pid" = some "a=b:c") ∧
    parse "usb:vid=1,,x" = .error (.format "") := by
  intro pairs
  have free : ':' ∉ "usb".toList := by decide
  have plain : ∀ pair ∈ pairs, Plain pair := by
    simp only [pairs, List.forall_mem_cons]
    exact ⟨⟨by decide, by decide, by decide⟩, ⟨by decide, by decide, by decide⟩,
      ⟨by decide, by decide, by decide⟩, nofun⟩
  have text : written "usb" pairs = "usb:vid=0x1209, pid=a=b:c,vid =\t7 " := by decide
  have vid : GivenLast "vid" "7" pairs :=
    .behind (.behind (.here (trimmed_iff.mpr (by decide)) (trimmed_iff.mpr (by decide)) nofun))
  have other : ∀ later ∈ [("vid ", "\t7 ")], ¬ Trimmed later.1.toList "pid".toList := by
    simp only [List.forall_mem_singleton, trimmed_iff]
    decide
  have pid : GivenLast "pid" "a=b:c" pairs :=
    .behind (.here (trimmed_iff.mpr (by decide)) (trimmed_iff.mpr (by decide)) other)
  have unkeyed : FirstUnkeyed "usb:vid=1,,x" [] :=
    ⟨"usb".toList, "vid=1,,x".toList, ["vid=1".toList], ["x".toList], by decide, by decide,
      by decide, divided_iff.mpr (by decide), by decide, by decide⟩
  obtain ⟨spec, read, name, -, given⟩ := parse_reads.1 "usb" pairs free plain
  rw [text] at read
  exact ⟨free, plain, ⟨spec, read, name, (given _ _).mpr vid, (given _ _).mpr pid⟩,
    (parse_reads.2 _ _).mpr ⟨[], unkeyed, rfl⟩⟩

end Spec
end Bridge
end OnfiFlash
