/-!
# Tables

A table maps names to values and lists its entries in increasing order of
names, so that two tables with the same look-ups are equal and a listing needs
no further sorting.
-/

namespace LineShell

/-- A finite map from names, in increasing order of names. -/
structure Table (α : Type) where
  entries : List (String × α)
  sorted : entries.Pairwise fun a b => a.1 < b.1

namespace Table

variable {α : Type}

def empty : Table α :=
  ⟨[], .nil⟩

instance : Inhabited (Table α) := ⟨empty⟩

instance [DecidableEq α] : DecidableEq (Table α) := fun a b =>
  if h : a.entries = b.entries then
    isTrue (by cases a; cases b; simp_all)
  else isFalse fun e => h (e ▸ rfl)

def find? (name : String) : List (String × α) → Option α
  | [] => none
  | e :: rest => if e.1 = name then some e.2 else find? name rest

/-- The entries with one more, in its place; an entry of the same name gives way. -/
def place (name : String) (value : α) : List (String × α) → List (String × α)
  | [] => [(name, value)]
  | e :: rest =>
      if name < e.1 then (name, value) :: e :: rest
      else if e.1 = name then (name, value) :: rest
      else e :: place name value rest

theorem mem_place {name : String} {value : α} {es : List (String × α)} {e : String × α}
    (h : e ∈ place name value es) : e = (name, value) ∨ e ∈ es := by
  induction es with
  | nil => simpa [place] using h
  | cons d rest ih =>
      simp only [place] at h
      split at h
      · simpa using h
      · split at h
        · rcases List.mem_cons.mp h with rfl | h
          · exact .inl rfl
          · exact .inr (List.mem_cons_of_mem _ h)
        · rcases List.mem_cons.mp h with rfl | h
          · exact .inr (List.mem_cons_self ..)
          · exact (ih h).imp id (List.mem_cons_of_mem _)

theorem sorted_place (name : String) (value : α) {es : List (String × α)}
    (h : es.Pairwise fun a b => a.1 < b.1) :
    (place name value es).Pairwise fun a b => a.1 < b.1 := by
  induction es with
  | nil => simp [place]
  | cons d rest ih =>
      obtain ⟨hd, hrest⟩ := List.pairwise_cons.mp h
      simp only [place]
      split
      · rename_i hlt
        refine List.pairwise_cons.mpr ⟨fun e he => ?_, h⟩
        rcases List.mem_cons.mp he with rfl | he
        · exact hlt
        · exact String.lt_trans hlt (hd e he)
      · split
        · rename_i heq
          exact List.pairwise_cons.mpr ⟨fun e he => heq ▸ hd e he, hrest⟩
        · rename_i hnot hne
          refine List.pairwise_cons.mpr ⟨fun e he => ?_, ih hrest⟩
          rcases mem_place he with rfl | he
          · grind
          · exact hd e he

def get? (t : Table α) (name : String) : Option α :=
  find? name t.entries

def contains (t : Table α) (name : String) : Bool :=
  (t.get? name).isSome

def insert (t : Table α) (name : String) (value : α) : Table α :=
  ⟨place name value t.entries, sorted_place name value t.sorted⟩

def filterNames (t : Table α) (p : String → Bool) : Table α :=
  ⟨t.entries.filter (p ·.1), t.sorted.filter _⟩

def erase (t : Table α) (name : String) : Table α :=
  t.filterNames (· != name)

/-- The table of a list of entries, of which a later one wins. -/
def ofList (es : List (String × α)) : Table α :=
  es.foldl (fun t e => t.insert e.1 e.2) empty

def names (t : Table α) : List String :=
  t.entries.map (·.1)

def size (t : Table α) : Nat :=
  t.entries.length

theorem find?_place (name : String) (value : α) (k : String) (es : List (String × α)) :
    find? k (place name value es) = if name = k then some value else find? k es := by
  induction es with
  | nil => simp [place, find?]
  | cons d rest ih =>
      simp only [place]
      split
      · simp [find?]
      · split
        · rename_i heq
          simp only [find?]
          split <;> simp_all
        · simp only [find?, ih]
          split <;> grind

@[simp] theorem get?_insert (t : Table α) (name : String) (value : α) (k : String) :
    (t.insert name value).get? k = if name = k then some value else t.get? k :=
  find?_place name value k t.entries

@[simp] theorem get?_filterNames (t : Table α) (p : String → Bool) (k : String) :
    (t.filterNames p).get? k = if p k then t.get? k else none := by
  obtain ⟨es, h⟩ := t
  simp only [filterNames, get?]
  clear h
  induction es with
  | nil => simp [find?]
  | cons d rest ih =>
      by_cases hp : p d.1 <;> by_cases hk : d.1 = k <;> simp_all [find?]

end Table
end LineShell
