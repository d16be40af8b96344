/-!
# Names by language

The names of a place in several languages. The name without a language stands under the key
`default`. Entries are sorted by language, each language occurs once, and so two collections with
the same names are equal.
-/

namespace Whereabouts

/-- Names keyed by language. -/
structure Names where
  entries : List (String × String)
  sorted : entries.Pairwise fun a b => a.1 < b.1

namespace Names

def defaultKey : String := "default"

/-- Puts a name into sorted entries, in place of a name of the same language. -/
def put (lang name : String) : List (String × String) → List (String × String)
  | [] => [(lang, name)]
  | (l, n) :: rest =>
    if lang < l then (lang, name) :: (l, n) :: rest
    else if lang = l then (lang, name) :: rest
    else (l, n) :: put lang name rest

/-- The languages after putting a name are the old ones and the new one. -/
theorem mem_put {lang name : String} {entries : List (String × String)} {e : String × String}
    (h : e ∈ put lang name entries) : e = (lang, name) ∨ e ∈ entries := by
  induction entries with
  | nil => simpa [put] using h
  | cons head rest ih =>
    obtain ⟨l, n⟩ := head
    simp only [put] at h
    split at h
    · simpa using h
    · split at h
      · rcases List.mem_cons.1 h with h | h
        · exact .inl h
        · exact .inr (List.mem_cons_of_mem _ h)
      · rcases List.mem_cons.1 h with h | h
        · exact .inr (h ▸ List.mem_cons_self)
        · exact (ih h).imp_right (List.mem_cons_of_mem _)

/-- Names stay sorted by language when one is put in. -/
theorem sorted_put (lang name : String) {entries : List (String × String)}
    (h : entries.Pairwise fun a b => a.1 < b.1) :
    (put lang name entries).Pairwise fun a b => a.1 < b.1 := by
  induction entries with
  | nil => simp [put]
  | cons head rest ih =>
    obtain ⟨l, n⟩ := head
    obtain ⟨before, tail⟩ := List.pairwise_cons.1 h
    simp only [put]
    split
    · next lt =>
      refine List.pairwise_cons.2 ⟨fun e he => ?_, h⟩
      rcases List.mem_cons.1 he with rfl | he
      · exact lt
      · exact String.lt_trans lt (before e he)
    · next not_lt =>
      split
      · next eq => exact List.pairwise_cons.2 ⟨fun e he => eq ▸ before e he, tail⟩
      · next ne =>
        refine List.pairwise_cons.2 ⟨fun e he => ?_, ih tail⟩
        rcases mem_put he with rfl | he
        · exact Std.lt_of_le_of_ne not_lt (Ne.symm ne)
        · exact before e he

def empty : Names := ⟨[], .nil⟩

instance : Inhabited Names := ⟨empty⟩

/-- The names with one more, which takes the place of a name of the same language. -/
def insert (names : Names) (lang name : String) : Names :=
  ⟨put lang name names.entries, sorted_put lang name names.sorted⟩

/-- The names of a list; of several names of one language the last counts. -/
def ofList (entries : List (String × String)) : Names :=
  entries.foldl (fun names e => names.insert e.1 e.2) empty

def get? (names : Names) (lang : String) : Option String :=
  (names.entries.find? fun e => e.1 == lang).map (·.2)

def first? (names : Names) : Option String := names.entries.head?.map (·.2)

/-- The name to show where no language is asked for: the one without a language, else the first. -/
def display? (names : Names) : Option String := (names.get? defaultKey).or names.first?

/-- The names without the one that has no language. -/
def withoutDefault (names : Names) : Names :=
  ⟨names.entries.filter fun e => e.1 != defaultKey, names.sorted.filter _⟩

def isEmpty (names : Names) : Bool := names.entries.isEmpty

end Names

end Whereabouts
