import Mathlib.Data.List.Basic
import Whereabouts.Walking.Table

/-!
# What a table service is asked

The points of a request stand in the last segment of its address, and the numbers under which the
service finds origins and destinations there stand in the query. None of the characters of these
lists is changed by being put into an address, so that cutting at the separators gives them back.

* `Url.encode_eq_self`: plain characters are not encoded.
* `Decimal.isPlain_fixed`: numbers with a fixed count of places are plain.
* `TableService.splitOn_places`: the points of a request.
* `TableService.splitOn_numbers`: the numbers of a request.
* `TableService.request_eq`: the address of a request.
-/

namespace Whereabouts

namespace Decimal

/-- The characters other than digits in numbers with a fixed count of places. -/
def marks : List Char := ['-', '.', 'N', 'a', 'i', 'n', 'f']

/-- Whether a character stands in numbers with a fixed count of places. -/
def isNumeral (c : Char) : Bool := c.isDigit || marks.contains c

/-- The digits of a number belong to numerals. -/
lemma isNumeral_repr (n : Nat) : ∀ c ∈ (Nat.repr n).toList, isNumeral c = true := by
  intro c mem
  rw [Nat.toList_repr] at mem
  rw [isNumeral, Nat.isDigit_of_mem_toDigits (by decide) (by decide) mem]
  rfl

/-- The digits of a padded number belong to numerals. -/
lemma isNumeral_padded (width n : Nat) : ∀ c ∈ (padded width n).toList, isNumeral c = true := by
  intro c mem
  unfold padded at mem
  rw [String.toList_append, String.toList_ofList, List.mem_append] at mem
  obtain zero | digit := mem
  · rw [List.eq_of_mem_replicate zero]
    rfl
  · exact isNumeral_repr n c digit

/-- Digits with a point between them belong to numerals. -/
lemma isNumeral_fixedMagnitude (places : Nat) (b : Binary) :
    ∀ c ∈ (b.fixedMagnitude places).toList, isNumeral c = true := by
  unfold Binary.fixedMagnitude
  dsimp only
  split
  next => exact isNumeral_repr _
  next =>
    intro c mem
    rw [String.toList_append, String.toList_append, List.mem_append, List.mem_append] at mem
    obtain (whole | point) | rest := mem
    · exact isNumeral_repr _ c whole
    · rw [List.mem_singleton.1 point]
      rfl
    · exact isNumeral_padded _ _ c rest

/-- The characters of numbers with a fixed count of places. -/
lemma isNumeral_fixed (places : Nat) (x : Float) :
    ∀ c ∈ (fixed places x).toList, isNumeral c = true := by
  unfold fixed
  cases Binary.ofFloat? x with
  | some b =>
    intro c mem
    rw [String.toList_append, List.mem_append] at mem
    obtain sign | magnitude := mem
    · cases negative : b.negative with
      | true =>
        rw [negative] at sign
        rw [List.mem_singleton.1 sign]
        rfl
      | false =>
        rw [negative] at sign
        exact absurd sign List.not_mem_nil
    · exact isNumeral_fixedMagnitude places b c magnitude
  | none =>
    have special : nonFinite x ∈ ["NaN", "-inf", "inf"] := by
      unfold nonFinite
      split
      · exact List.mem_cons_self
      · split
        · exact List.mem_cons_of_mem _ List.mem_cons_self
        · exact List.mem_cons_of_mem _ (List.mem_cons_of_mem _ List.mem_cons_self)
    have all : ["NaN", "-inf", "inf"].all (·.toList.all isNumeral) = true := by decide
    exact List.all_eq_true.1 (List.all_eq_true.1 all _ special)

end Decimal

namespace Url

/-- Whether a character stands in lists of numbers and of coordinates. -/
def isPlain (c : Char) : Bool := Decimal.isNumeral c || c == ',' || c == ';'

/-- What belongs to a numeral is plain. -/
lemma isPlain_of_isNumeral {c : Char} (numeral : Decimal.isNumeral c = true) :
    isPlain c = true := by
  rw [isPlain, numeral]
  rfl

/-- A plain character is a digit, a separator or a mark of a numeral. -/
lemma isPlain_cases {c : Char} (plain : isPlain c = true) :
    c.isDigit = true ∨ c ∈ [',', ';'] ++ Decimal.marks := by
  rw [isPlain, Decimal.isNumeral, Bool.or_eq_true, Bool.or_eq_true, Bool.or_eq_true,
    List.contains_iff_mem, beq_iff_eq, beq_iff_eq] at plain
  obtain ((digit | other) | rfl) | rfl := plain
  · exact .inl digit
  · exact .inr (List.mem_append_right _ other)
  · exact .inr (by decide)
  · exact .inr (by decide)

/-- A plain character can be printed. -/
lemma not_isUnprintable {c : Char} (plain : isPlain c = true) : isUnprintable c = false := by
  obtain digit | other := isPlain_cases plain
  · rw [Char.isDigit, Bool.and_eq_true, decide_eq_true_eq, decide_eq_true_eq] at digit
    have least : 48 ≤ c.toNat := digit.1
    have most : c.toNat ≤ 57 := digit.2
    rw [isUnprintable, Bool.or_eq_false_iff, decide_eq_false_iff_not, decide_eq_false_iff_not]
    omega
  · have all : ([',', ';'] ++ Decimal.marks).all (!isUnprintable ·) = true := by decide
    exact Bool.not_eq_eq_eq_not.1 (List.all_eq_true.1 all c other)

/-- Characters that are plain are not encoded where no plain character is to be. -/
lemma encode_eq_self {set cs : List Char} (off : set.all (!isPlain ·) = true)
    (plain : ∀ c ∈ cs, isPlain c = true) : encode set cs = cs := by
  induction cs with
  | nil => rfl
  | cons c cs ih =>
    have here := plain c List.mem_cons_self
    have out : set.contains c = false := by
      rw [← Bool.not_eq_true, List.contains_iff_mem]
      intro mem
      have no : isPlain c = false := Bool.not_eq_eq_eq_not.1 (List.all_eq_true.1 off c mem)
      exact Bool.false_ne_true (no.symm.trans here)
    have same : encode set (c :: cs) = c :: encode set cs := by
      unfold encode
      rw [List.flatMap_cons, not_isUnprintable here, out]
      rfl
    rw [same, ih fun c mem => plain c (List.mem_cons_of_mem _ mem)]

/-- A text in two parts is encoded part by part. -/
lemma encode_append (set cs ds : List Char) :
    encode set (cs ++ ds) = encode set cs ++ encode set ds :=
  List.flatMap_append

/-- A segment with a comma stands for no other place. -/
lemma stays {segment : List Char} (comma : ',' ∈ segment) :
    isHere segment = false ∧ isAbove segment = false := by
  have lower : ',' ∈ segment.map Char.toLower := List.mem_map.2 ⟨',', comma, rfl⟩
  have differs : ∀ texts : List String, (∀ text ∈ texts, ',' ∉ text.toList) →
      texts.contains (String.ofList (segment.map Char.toLower)) = false := by
    intro texts without
    rw [← Bool.not_eq_true, List.contains_iff_mem]
    intro mem
    have off := without _ mem
    rw [String.toList_ofList] at off
    exact off lower
  exact ⟨differs _ (by decide), differs _ (by decide)⟩

/-- A plain name with a comma in it is the last segment below a path. -/
lemma child_eq_append {special : Bool} {path : List String} {name : String}
    (plain : ∀ c ∈ name.toList, isPlain c = true) (comma : ',' ∈ name.toList) :
    ∃ front, child special path name = front ++ [name] := by
  have named : ¬ (name = "." ∨ name = "..") := by
    rintro (rfl | rfl)
    · exact absurd comma (by decide)
    · exact absurd comma (by decide)
  have written : name.toList.filter (!isLayout ·) = name.toList := by
    refine List.filter_eq_self.2 fun c mem => ?_
    cases layout : isLayout c with
    | false => rfl
    | true =>
      have no : isPlain c = false := by
        rw [isLayout, Bool.or_eq_true, Bool.or_eq_true, beq_iff_eq, beq_iff_eq, beq_iff_eq] at layout
        obtain (rfl | rfl) | rfl := layout
        · rfl
        · rfl
        · rfl
      exact absurd (plain c mem) (by rw [no]; exact Bool.false_ne_true)
  have off : (segmentSet special).all (!isPlain ·) = true := by
    cases special with
    | true => decide
    | false => decide
  refine ⟨if path = [""] then [] else path, ?_⟩
  obtain ⟨here, above⟩ := stays comma
  unfold child
  rw [if_neg named, written, encode_eq_self off plain]
  unfold step
  rw [here, above]
  exact congrArg (_ ++ [·]) String.ofList_toList

end Url

/-- What holds of all characters of parts and of what stands between them holds of the whole. -/
lemma forall_mem_intercalate {β : Type} {P : β → Prop} {between : List β} {parts : List (List β)}
    (first : ∀ c ∈ between, P c) (each : ∀ part ∈ parts, ∀ c ∈ part, P c) :
    ∀ c ∈ between.intercalate parts, P c := by
  induction parts with
  | nil => exact nofun
  | cons part parts ih =>
    have later := ih fun part mem => each part (List.mem_cons_of_mem _ mem)
    have here := each part List.mem_cons_self
    cases parts with
    | nil =>
      rw [List.intercalate_singleton]
      exact here
    | cons next parts =>
      rw [List.intercalate_cons_cons]
      intro c mem
      rw [List.mem_append, List.mem_append] at mem
      obtain (mem | mem) | mem := mem
      · exact here c mem
      · exact first c mem
      · exact later c mem

namespace TableService

open Decimal (isNumeral_fixed isNumeral_repr)
open Url (isPlain isPlain_of_isNumeral encode_append encode_eq_self querySet)

/-- A text of numbers and separators between them is plain. -/
lemma isPlain_intercalate {parts : List String}
    (each : ∀ part ∈ parts, ∀ c ∈ part.toList, isPlain c = true) :
    ∀ c ∈ (";".intercalate parts).toList, isPlain c = true := by
  rw [String.toList_intercalate]
  refine forall_mem_intercalate ?_ ?_
  · intro c mem
    rw [List.mem_singleton.1 mem]
    rfl
  · intro part mem
    obtain ⟨text, there, rfl⟩ := List.mem_map.1 mem
    exact each text there

/-- Cutting a text at the separators gives its parts back. -/
lemma splitOn_intercalate {separator : Char} {parts : List String} (nonempty : parts ≠ [])
    (each : ∀ part ∈ parts, separator ∉ part.toList) :
    ((String.singleton separator).intercalate parts).toList.splitOn separator =
      parts.map String.toList := by
  rw [String.toList_intercalate, String.toList_singleton]
  refine List.splitOn_intercalate separator (fun part mem => ?_)
    fun none => nonempty (List.map_eq_nil_iff.1 none)
  obtain ⟨text, there, rfl⟩ := List.mem_map.1 mem
  exact each text there

section Places

variable (points : List (Point Float))

/-- The coordinates of a point are two numerals and a comma. -/
lemma mem_coordinates {p : Point Float} {c : Char} (mem : c ∈ (coordinates p).toList) :
    Decimal.isNumeral c = true ∨ c = ',' := by
  unfold coordinates at mem
  rw [String.toList_append, String.toList_append, List.mem_append, List.mem_append] at mem
  obtain (lon | comma) | lat := mem
  · exact .inl (isNumeral_fixed 6 p.lon c lon)
  · exact .inr (List.mem_singleton.1 comma)
  · exact .inl (isNumeral_fixed 6 p.lat c lat)

/-- The places of a request as they stand in its address. -/
def places : String := ";".intercalate (points.map coordinates)

/-- Places are written in plain characters. -/
lemma isPlain_places : ∀ c ∈ (places points).toList, isPlain c = true := by
  refine isPlain_intercalate fun part mem c there => ?_
  obtain ⟨p, -, rfl⟩ := List.mem_map.1 mem
  obtain numeral | rfl := mem_coordinates there
  · exact isPlain_of_isNumeral numeral
  · rfl

variable {points}

/-- The places between the separators are those of the points, in order. -/
lemma splitOn_places (nonempty : points ≠ []) : (places points).toList.splitOn ';' =
    points.map fun p => (coordinates p).toList := by
  have cut : (places points).toList.splitOn ';' = (points.map coordinates).map String.toList := by
    refine splitOn_intercalate (fun none => nonempty (List.map_eq_nil_iff.1 none)) ?_
    intro part mem there
    obtain ⟨p, -, rfl⟩ := List.mem_map.1 mem
    obtain numeral | comma := mem_coordinates there
    · exact absurd numeral (by decide)
    · exact absurd comma (by decide)
  rw [cut, List.map_map]
  rfl

/-- Places have a comma, where there are any. -/
lemma comma_mem_places (nonempty : points ≠ []) : ',' ∈ (places points).toList := by
  cases points with
  | nil => exact absurd rfl nonempty
  | cons p points =>
    have first : ',' ∈ (coordinates p).toList := by
      unfold coordinates
      rw [String.toList_append, String.toList_append]
      exact List.mem_append_left _ (List.mem_append_right _ List.mem_cons_self)
    unfold places
    cases points with
    | nil =>
      rw [List.map_singleton, String.intercalate_singleton]
      exact first
    | cons next points =>
      rw [List.map_cons, List.map_cons, String.intercalate_cons_cons, String.toList_append,
        String.toList_append]
      exact List.mem_append_left _ (List.mem_append_left _ first)

end Places

section Numbers

/-- Numbers are written in plain characters. -/
lemma isPlain_numbers (start count : Nat) : ∀ c ∈ (numbers start count).toList, isPlain c = true := by
  refine isPlain_intercalate fun part mem c there => ?_
  obtain ⟨n, -, rfl⟩ := List.mem_map.1 mem
  exact isPlain_of_isNumeral (isNumeral_repr n c there)

/-- The numbers between the separators follow one another. -/
lemma splitOn_numbers {start count : Nat} (pos : 0 < count) :
    (numbers start count).toList.splitOn ';' =
      (List.range' start count).map fun n => (toString n).toList := by
  have cut : (numbers start count).toList.splitOn ';' =
      ((List.range' start count).map toString).map String.toList := by
    refine splitOn_intercalate (fun none => ?_) fun part mem there => ?_
    · have no := List.range'_eq_nil_iff.1 (List.map_eq_nil_iff.1 none)
      omega
    · obtain ⟨n, -, rfl⟩ := List.mem_map.1 mem
      exact absurd (isNumeral_repr n ';' there) (by decide)
  rw [cut, List.map_map]
  rfl

/-- The query of a request is not changed by being put into an address. -/
lemma encode_query (special : Bool) (origins destinations : Nat) :
    Url.encode (querySet special) (query origins destinations).toList =
      (query origins destinations).toList := by
  have off : (querySet special).all (!isPlain ·) = true := by
    cases special with
    | true => decide
    | false => decide
  have literal : ∀ text ∈ ["sources=", "&destinations=", "&annotations=distance,duration"],
      Url.encode (querySet special) text.toList = text.toList := by
    cases special with
    | true => decide
    | false => decide
  unfold query
  simp only [String.toList_append, encode_append]
  rw [literal "sources=" (by decide), literal "&destinations=" (by decide),
    literal "&annotations=distance,duration" (by decide),
    encode_eq_self off (isPlain_numbers 0 origins),
    encode_eq_self off (isPlain_numbers origins destinations)]

/-- The fields of a query. -/
lemma splitOn_query (origins destinations : Nat) :
    (query origins destinations).toList.splitOn '&' =
      ["sources=" ++ numbers 0 origins, "destinations=" ++ numbers origins destinations,
        "annotations=distance,duration"].map String.toList := by
  have joined : query origins destinations = (String.singleton '&').intercalate
      ["sources=" ++ numbers 0 origins, "destinations=" ++ numbers origins destinations,
        "annotations=distance,duration"] := by
    rw [String.intercalate_cons_cons, String.intercalate_cons_cons, String.intercalate_singleton]
    simp only [query, String.append_assoc]
    rfl
  rw [joined]
  have plain : ∀ start count, '&' ∉ (numbers start count).toList := fun start count mem =>
    absurd (isPlain_numbers start count '&' mem) (by decide)
  refine splitOn_intercalate (List.cons_ne_nil _ _) fun part mem there => ?_
  rw [List.mem_cons, List.mem_cons, List.mem_singleton] at mem
  obtain rfl | rfl | rfl := mem
  · rw [String.toList_append, List.mem_append] at there
    exact there.elim (by decide) (plain _ _)
  · rw [String.toList_append, List.mem_append] at there
    exact there.elim (by decide) (plain _ _)
  · exact absurd there (by decide)

end Numbers

/-- The address of a request below a base that has a path of segments. -/
lemma request_eq {service : TableService} {path : List String}
    (base : service.base.path = .segments path) {origins destinations : List (Point Float)}
    (nonempty : origins ≠ []) : ∃ front, service.request origins destinations =
      .ok { service.base with
        path := .segments (front ++ [places (origins ++ destinations)])
        query := some (query origins.length destinations.length) } := by
  have nonempty' : origins ++ destinations ≠ [] := List.append_ne_nil_of_left_ne_nil nonempty _
  have last : ∃ front, ["table", "v1", service.profile, places (origins ++ destinations)].foldl
      (Url.child service.base.isSpecial) (Url.withoutTrailing path) =
        front ++ [places (origins ++ destinations)] :=
    Url.child_eq_append (isPlain_places _) (comma_mem_places nonempty')
  obtain ⟨front, last⟩ := last
  refine ⟨front, ?_⟩
  have below : service.base.below?
      ["table", "v1", service.profile, places (origins ++ destinations)]
      (query origins.length destinations.length) = some { service.base with
        path := .segments (front ++ [places (origins ++ destinations)])
        query := some (query origins.length destinations.length) } := by
    unfold Url.below?
    rw [base]
    dsimp only
    rw [last, encode_query, String.ofList_toList]
  unfold places at below ⊢
  unfold request
  dsimp only
  rw [below]

end TableService

end Whereabouts
