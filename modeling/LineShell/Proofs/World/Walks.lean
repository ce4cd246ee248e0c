import Mathlib
import LineShell.Proofs.World.Changes

/-!
# Walking to a file again

The steps that lead a walk to its end are told apart here, one rule for each.  A walk
that was made to write a file looks at directories and links on its way and at nothing
else, so that another content at its end does not lead it elsewhere: the same path leads
there again.
-/

namespace LineShell
namespace FileTree

/-- A part that is looked up as a name, with the rest of the path behind it. -/
structure LooksUp (ending : Ending) (part : String) (rest : List String) : Prop where
  moves : ¬(part = "" ∨ part = ".")
  down : part ≠ ".."
  open_ : ¬(ending = .create ∧ rest = [""])
  short : ¬nameLimit < part.utf8ByteSize

/-- A walk with a number of links left leads from a location along the parts to a spot. -/
inductive Walks (tree : FileTree) (ending : Ending) :
    Nat → Location → List String → Spot → Prop
  | here {links : Nat} {loc : Location} :
      Walks tree ending links loc [] (.present loc (tree.standing loc))
  | stay {links : Nat} {loc : Location} {part : String} {rest : List String} {spot : Spot}
      (hpart : part = "" ∨ part = ".") (h : Walks tree ending links loc rest spot) :
      Walks tree ending links loc (part :: rest) spot
  | up {links : Nat} {loc : Location} {rest : List String} {spot : Spot}
      (h : Walks tree ending links loc.dropLast rest spot) :
      Walks tree ending links loc (".." :: rest) spot
  | down {links : Nat} {loc : Location} {part : String} {rest : List String} {spot : Spot}
      {a : Attributes} (hpart : LooksUp ending part rest)
      (hnode : tree.node? (loc ++ [part]) = some (.directory a))
      (h : Walks tree ending links (loc ++ [part]) rest spot) :
      Walks tree ending links loc (part :: rest) spot
  | link {links : Nat} {loc : Location} {part target : String} {rest : List String}
      {spot : Spot} {a : Attributes} (hpart : LooksUp ending part rest)
      (hnode : tree.node? (loc ++ [part]) = some (.link target a))
      (hfollow : ¬(rest = [] ∧ ending = .keep))
      (h : Walks tree ending links (if Path.isAbsolute target then [] else loc)
        (walkParts target ++ rest) spot) :
      Walks tree ending (links + 1) loc (part :: rest) spot
  | kept {links : Nat} {loc : Location} {part target : String} {a : Attributes}
      (hpart : LooksUp ending part [])
      (hnode : tree.node? (loc ++ [part]) = some (.link target a)) (hkeep : ending = .keep) :
      Walks tree ending links loc [part] (.present (loc ++ [part]) (.link target a))
  | leaf {links : Nat} {loc : Location} {part : String} {node : Node}
      (hpart : LooksUp ending part []) (hnode : tree.node? (loc ++ [part]) = some node)
      (hdirectory : ∀ a, node ≠ .directory a) (hlink : ∀ target a, node ≠ .link target a) :
      Walks tree ending links loc [part] (.present (loc ++ [part]) node)
  | free {links : Nat} {loc : Location} {part : String} {rest : List String}
      (hpart : LooksUp ending part rest) (hnode : tree.node? (loc ++ [part]) = none)
      (hrest : rest = [] ∨ rest = [""]) :
      Walks tree ending links loc (part :: rest) (.absent loc part (rest ≠ []))

theorem LooksUp.walkWith_cons {ending : Ending} {part : String} {rest : List String}
    (h : LooksUp ending part rest) (jump : Location → List String → Except SystemError Spot)
    (tree : FileTree) (loc : Location) :
    walkWith jump tree ending loc (part :: rest) =
      match tree.node? (loc ++ [part]) with
      | none =>
          if rest = [] ∨ rest = [""] then .ok (.absent loc part (rest ≠ []))
          else .error .notFound
      | some (.directory _) => walkWith jump tree ending (loc ++ [part]) rest
      | some (.link target a) =>
          if rest = [] ∧ ending = .keep then .ok (.present (loc ++ [part]) (.link target a))
          else jump (if Path.isAbsolute target then [] else loc) (walkParts target ++ rest)
      | some node =>
          if rest = [] then .ok (.present (loc ++ [part]) node) else .error .notADirectory := by
  have hstep := walkWith.eq_2 jump tree ending loc part rest
  rw [if_neg h.moves, if_neg h.down, if_neg h.open_, if_neg h.short] at hstep
  exact hstep

/-- What a walk does at a link, with a number of links left. -/
def jumpWith (tree : FileTree) (ending : Ending) :
    Nat → Location → List String → Except SystemError Spot
  | 0 => fun _ _ ↦ .error .tooManyLinks
  | links + 1 => walkLinks tree ending links

theorem walkLinks_eq (tree : FileTree) (ending : Ending) (links : Nat) :
    walkLinks tree ending links = walkWith (jumpWith tree ending links) tree ending := by
  cases links <;> rfl

theorem walks_of_walkWith {tree : FileTree} {ending : Ending} {links : Nat}
    (hjump : ∀ loc parts spot, jumpWith tree ending links loc parts = .ok spot →
      ∃ fewer, links = fewer + 1 ∧ Walks tree ending fewer loc parts spot)
    {parts : List String} {loc : Location} {spot : Spot}
    (h : walkWith (jumpWith tree ending links) tree ending loc parts = .ok spot) :
    Walks tree ending links loc parts spot := by
  induction parts generalizing loc with
  | nil =>
      obtain rfl := Except.ok.inj h
      exact .here
  | cons part rest ih =>
      rw [walkWith] at h
      by_cases hstay : part = "" ∨ part = "."
      · rw [if_pos hstay] at h
        exact .stay hstay (ih h)
      rw [if_neg hstay] at h
      by_cases hup : part = ".."
      · rw [if_pos hup] at h
        exact hup ▸ .up (ih h)
      rw [if_neg hup] at h
      by_cases hopen : ending = .create ∧ rest = [""]
      · rw [if_pos hopen] at h
        cases h
      rw [if_neg hopen] at h
      by_cases hshort : nameLimit < part.utf8ByteSize
      · rw [if_pos hshort] at h
        cases h
      rw [if_neg hshort] at h
      have hpart : LooksUp ending part rest := ⟨hstay, hup, hopen, hshort⟩
      cases hnode : tree.node? (loc ++ [part]) with
      | none =>
          rw [hnode] at h
          simp only at h
          split_ifs at h with hrest
          obtain rfl := Except.ok.inj h
          exact .free hpart hnode hrest
      | some node =>
          rw [hnode] at h
          cases node with
          | directory a => exact .down hpart hnode (ih h)
          | link target a =>
              simp only at h
              by_cases hkept : rest = [] ∧ ending = .keep
              · rw [if_pos hkept] at h
                obtain rfl := Except.ok.inj h
                obtain ⟨rfl, hkeep⟩ := hkept
                exact .kept hpart hnode hkeep
              · rw [if_neg hkept] at h
                obtain ⟨fewer, rfl, hwalks⟩ := hjump _ _ _ h
                exact .link hpart hnode hkept hwalks
          | file content a | null | program p =>
              simp only at h
              split_ifs at h with hrest
              obtain rfl := Except.ok.inj h
              subst hrest
              exact .leaf hpart hnode (by simp) (by simp)

theorem walkLinks_of_walks {tree : FileTree} {ending : Ending} {links : Nat}
    {loc : Location} {parts : List String} {spot : Spot}
    (h : Walks tree ending links loc parts spot) :
    walkLinks tree ending links loc parts = .ok spot := by
  induction h with
  | here => rw [walkLinks_eq, walkWith]
  | stay hpart _ ih => rwa [walkLinks_eq, walkWith, if_pos hpart, ← walkLinks_eq]
  | up _ ih =>
      rw [walkLinks_eq, walkWith, if_neg (by decide), if_pos rfl, ← walkLinks_eq]
      exact ih
  | down hpart hnode _ ih =>
      rw [walkLinks_eq, hpart.walkWith_cons, hnode, ← walkLinks_eq]
      exact ih
  | link hpart hnode hfollow _ ih =>
      rw [walkLinks_eq, hpart.walkWith_cons, hnode]
      simp only
      rw [if_neg hfollow]
      exact ih
  | kept hpart hnode hkeep =>
      rw [walkLinks_eq, hpart.walkWith_cons, hnode]
      simp [hkeep]
  | @leaf _ _ _ node hpart hnode hdirectory hlink =>
      rw [walkLinks_eq, hpart.walkWith_cons, hnode]
      cases node with
      | directory a => exact absurd rfl (hdirectory a)
      | link target a => exact absurd rfl (hlink target a)
      | file content a | null | program p => rfl
  | free hpart hnode hrest =>
      rw [walkLinks_eq, hpart.walkWith_cons, hnode]
      simp [hrest]

theorem walkLinks_eq_ok_iff (tree : FileTree) (ending : Ending) (links : Nat) (loc : Location)
    (parts : List String) (spot : Spot) :
    walkLinks tree ending links loc parts = .ok spot ↔
      Walks tree ending links loc parts spot := by
  refine ⟨fun h ↦ ?_, walkLinks_of_walks⟩
  induction links generalizing loc parts spot with
  | zero =>
      refine walks_of_walkWith (fun loc parts spot hjump ↦ ?_) (walkLinks_eq tree ending 0 ▸ h)
      cases hjump
  | succ links ih =>
      refine walks_of_walkWith (fun loc parts spot hjump ↦ ?_)
        (walkLinks_eq tree ending (links + 1) ▸ h)
      exact ⟨links, rfl, ih loc parts spot hjump⟩

variable {tree tree' : FileTree} {ending : Ending} {links : Nat} {loc : Location}
  {parts : List String} {spot : Spot}

theorem get?_of_ne_nil {loc : Location} (h : loc ≠ []) (tree : FileTree) :
    tree.get? loc = tree.node? loc :=
  if_neg h

/-- What stands at the spot is what the tree has there. -/
def Spot.IsIn (tree : FileTree) : Spot → Prop
  | .present loc node => tree.standing loc = node
  | .absent parent name _ => tree.node? (parent ++ [name]) = none

theorem Walks.isIn (h : Walks tree ending links loc parts spot) : spot.IsIn tree := by
  have hstanding : ∀ {loc : Location} {part : String} {node : Node},
      tree.node? (loc ++ [part]) = some node → tree.standing (loc ++ [part]) = node := by
    intro loc part node hnode
    rw [standing, get?_of_ne_nil (by simp), hnode, Option.getD_some]
  induction h with
  | here => rfl
  | stay _ _ ih | up _ ih | down _ _ _ ih | link _ _ _ _ ih => exact ih
  | kept _ hnode | leaf _ hnode => exact hstanding hnode
  | free _ hnode => exact hnode

/-- The spot is a file at the location, or a free name there. -/
def Spot.IsWritable (target : Location) : Spot → Prop
  | .present loc node => loc = target ∧ ∃ content a, node = .file content a
  | .absent parent name slash => parent ++ [name] = target ∧ slash = false

theorem Spot.IsWritable.ne_nil {target : Location} (h : spot.IsWritable target)
    (hin : spot.IsIn tree) : target ≠ [] := by
  rintro rfl
  cases spot with
  | present loc node =>
      obtain ⟨rfl, content, a, rfl⟩ := h
      cases hin
  | absent parent name slash => simp [Spot.IsWritable] at h

theorem Spot.IsWritable.node?_eq {target : Location} {content : List UInt8} {a : Attributes}
    (h : (Spot.present loc (.file content a)).IsWritable target)
    (hin : (Spot.present loc (.file content a)).IsIn tree) :
    tree.node? target = some (.file content a) := by
  have hne := h.ne_nil hin
  obtain ⟨rfl, -⟩ := h
  have hstanding : tree.standing loc = .file content a := hin
  rw [standing, get?_of_ne_nil hne] at hstanding
  cases hnode : tree.node? loc with
  | some node =>
      rw [hnode] at hstanding
      exact congrArg some hstanding
  | none =>
      rw [hnode] at hstanding
      cases hstanding

/-- Nothing but a file stands at a location that can be written. -/
theorem Spot.IsWritable.eq_file {target : Location} (h : spot.IsWritable target)
    (hin : spot.IsIn tree) {node : Node} (hnode : tree.node? target = some node) :
    ∃ content a, node = .file content a := by
  cases spot with
  | present loc found =>
      obtain ⟨content, a, rfl⟩ := h.2
      have hfile := h.node?_eq hin
      exact ⟨content, a, Option.some.inj (hnode.symm.trans hfile)⟩
  | absent parent name slash =>
      obtain ⟨rfl, -⟩ := h
      exact absurd (hnode.symm.trans hin) (by simp)

/-- A walk that was made to write a file leads to it once it is written. -/
theorem Walks.again {target : Location} {content : List UInt8} {a : Attributes}
    (h : Walks tree .create links loc parts spot) (hspot : spot.IsWritable target)
    (helsewhere : ∀ k, k ≠ target → tree'.node? k = tree.node? k)
    (hfile : tree'.node? target = some (.file content a)) (hending : ending ≠ .keep) :
    Walks tree' ending links loc parts (.present target (.file content a)) := by
  have hne := hspot.ne_nil h.isIn
  have honly : ∀ node, tree.node? target = some node → ∃ bytes a, node = .file bytes a :=
    fun _ hnode ↦ hspot.eq_file h.isIn hnode
  have hlooks : ∀ {part : String} {rest : List String}, LooksUp .create part rest →
      LooksUp ending part rest := by
    intro part rest hpart
    exact ⟨hpart.moves, hpart.down, fun hopen ↦ hpart.open_ ⟨rfl, hopen.2⟩, hpart.short⟩
  induction h with
  | @here _ loc =>
      obtain ⟨rfl, -⟩ := hspot
      have hstanding : tree'.standing loc = .file content a := by
        rw [standing, get?_of_ne_nil hne, hfile, Option.getD_some]
      exact hstanding ▸ .here
  | stay hpart _ ih => exact .stay hpart (ih hspot)
  | up _ ih => exact .up (ih hspot)
  | @down _ loc part _ _ _ hpart hnode _ ih =>
      have hpassed : loc ++ [part] ≠ target := by
        rintro rfl
        obtain ⟨_, _, hdirectory⟩ := honly _ hnode
        cases hdirectory
      exact .down (hlooks hpart) ((helsewhere _ hpassed).trans hnode) (ih hspot)
  | @link _ loc part _ _ _ _ hpart hnode _ _ ih =>
      have hpassed : loc ++ [part] ≠ target := by
        rintro rfl
        obtain ⟨_, _, hlink⟩ := honly _ hnode
        cases hlink
      exact .link (hlooks hpart) ((helsewhere _ hpassed).trans hnode)
        (fun hkept ↦ hending hkept.2) (ih hspot)
  | kept _ _ hkeep => cases hkeep
  | leaf hpart _ _ _ =>
      obtain ⟨rfl, -⟩ := hspot
      exact .leaf (hlooks hpart) hfile (by simp) (by simp)
  | @free _ loc part rest hpart _ _ =>
      obtain ⟨rfl, hslash⟩ := hspot
      obtain rfl : rest = [] := by simpa using hslash
      exact .leaf (hlooks hpart) hfile (by simp) (by simp)

theorem walks_of_walk {here : Location} {path : String}
    (h : walk tree here ending path = .ok spot) :
    ∃ start, Walks tree ending linkLimit start (walkParts path) spot := by
  unfold walk at h
  split_ifs at h
  all_goals exact ⟨_, (walkLinks_eq_ok_iff _ _ _ _ _ _).mp h⟩

theorem isIn_of_walk {here : Location} {path : String}
    (h : walk tree here ending path = .ok spot) : spot.IsIn tree := by
  obtain ⟨start, hwalks⟩ := walks_of_walk h
  exact hwalks.isIn

/-- A path that leads to a place where a file can be written leads to the file that was
written there, whether it is followed to read or to write. -/
theorem walk_again {here target : Location} {path : String} {content : List UInt8}
    {a : Attributes} (h : walk tree here .create path = .ok spot) (hspot : spot.IsWritable target)
    (helsewhere : ∀ k, k ≠ target → tree'.node? k = tree.node? k)
    (hfile : tree'.node? target = some (.file content a)) (hending : ending ≠ .keep) :
    walk tree' here ending path = .ok (.present target (.file content a)) := by
  unfold walk at h ⊢
  split_ifs at h ⊢ with hnul hempty hlong
  all_goals
    rw [walkLinks_eq_ok_iff] at h ⊢
    exact h.again hspot helsewhere hfile hending

end FileTree
end LineShell
