import ProxyFleet.Engine.Inventory
import ProxyFleet.Proofs.Fleet.Arranged
import ProxyFleet.Proofs.Fleet.Related

/-!
The order in which engines list their containers. A block joins none but blocks of its own name, so
of two workloads that share no name either may be merged first: every name has the same blocks
afterwards, and stays so whatever is merged later. The text of a tree does not depend on the order
of its blocks.
-/

namespace ProxyFleet.Fleet

open Caddyfile
open Engine (Container Query Answers)

/-! Merging, name by name. -/

def named (name : String) (tree : List Block) : List Block := tree.filter (·.firstKey = name)

def SameByName (tree tree' : List Block) : Prop := ∀ name, named name tree = named name tree'

theorem named_cons_self (b : Block) (tree : List Block) :
    named b.firstKey (b :: tree) = b :: named b.firstKey tree :=
  List.filter_cons_of_pos (by simp)

theorem named_cons_of_ne {name : String} {b : Block} (h : b.firstKey ≠ name) (tree : List Block) :
    named name (b :: tree) = named name tree :=
  List.filter_cons_of_neg (by simpa using h)

theorem named_changeFirst (b : Block) (tree : List Block) :
    named b.firstKey (changeFirst b.joins (join b) b tree) =
      changeFirst b.joins (join b) b (named b.firstKey tree) := by
  induction tree with
  | nil => rw [changeFirst, named_cons_self]; rfl
  | cons a rest ih =>
    by_cases hj : b.joins a = true
    · have ha := firstKey_of_joins hj
      have hjoined : (join b a).firstKey = b.firstKey := by rw [firstKey_join hj, ha]
      rw [changeFirst, if_pos hj, ← ha, named_cons_self, changeFirst, if_pos hj, ha, ← hjoined,
        named_cons_self]
    · rw [changeFirst, if_neg hj]
      by_cases ha : a.firstKey = b.firstKey
      · rw [← ha, named_cons_self, named_cons_self, changeFirst, if_neg hj, ha, ih]
      · rw [named_cons_of_ne ha, named_cons_of_ne ha, ih]

theorem named_changeFirst_of_ne {name : String} {b : Block} (h : b.firstKey ≠ name)
    (tree : List Block) :
    named name (changeFirst b.joins (join b) b tree) = named name tree := by
  induction tree with
  | nil => rw [changeFirst, named_cons_of_ne h]
  | cons a rest ih =>
    rw [changeFirst]
    split
    · next hj =>
      have ha := firstKey_of_joins hj
      rw [named_cons_of_ne (by rwa [firstKey_join hj, ha]), named_cons_of_ne (by rwa [ha])]
    · by_cases ha : a.firstKey = name
      · rw [← ha, named_cons_self, named_cons_self, ha, ih]
      · rw [named_cons_of_ne ha, named_cons_of_ne ha, ih]

/-- What becomes of the blocks of a name depends on nothing but blocks of that name. -/
theorem named_mergeInto (name : String) (other base : List Block) :
    named name (mergeInto other base) = mergeInto (named name other) (named name base) := by
  induction other generalizing base with
  | nil =>
    rw [mergeInto]
    exact (mergeInto.eq_1 _).symm
  | cons b rest ih =>
    rw [mergeInto, ih]
    by_cases hb : b.firstKey = name
    · rw [← hb, named_changeFirst, named_cons_self, mergeInto]
    · rw [named_changeFirst_of_ne hb, named_cons_of_ne hb]

theorem named_merge (name : String) (base other : List Block) :
    named name (merge base other) = merge (named name base) (named name other) :=
  named_mergeInto name other base

theorem merge_nil (base : List Block) : merge base [] = base := by
  rw [merge, mergeInto]

theorem SameByName.merge {tree tree' : List Block} (h : SameByName tree tree')
    (other : List Block) : SameByName (merge tree other) (merge tree' other) := by
  intro name
  rw [named_merge, named_merge, h name]

theorem SameByName.foldl_merge {tree tree' : List Block} (h : SameByName tree tree')
    (others : List (List Block)) :
    SameByName (others.foldl Caddyfile.merge tree) (others.foldl Caddyfile.merge tree') := by
  induction others generalizing tree tree' with
  | nil => exact h
  | cons other others ih => exact ih (h.merge other)

theorem named_eq_nil_or {a b : List Block} (h : NewNames a b) (name : String) :
    named name a = [] ∨ named name b = [] := by
  by_contra hne
  rw [not_or] at hne
  obtain ⟨x, hx⟩ := List.exists_mem_of_ne_nil _ hne.1
  obtain ⟨y, hy⟩ := List.exists_mem_of_ne_nil _ hne.2
  obtain ⟨hx, hxname⟩ := List.mem_filter.1 hx
  obtain ⟨hy, hyname⟩ := List.mem_filter.1 hy
  exact h x hx y hy (by rw [of_decide_eq_true hxname, of_decide_eq_true hyname])

theorem sameByName_merge_comm {a b : List Block} (h : NewNames a b) (base : List Block) :
    SameByName (merge (merge base a) b) (merge (merge base b) a) := by
  intro name
  simp only [named_merge]
  rcases named_eq_nil_or h name with ha | hb
  · rw [ha, merge_nil, merge_nil]
  · rw [hb, merge_nil, merge_nil]

/-- Trees with the same blocks under every name have the same blocks. -/
theorem SameByName.perm {tree tree' : List Block} (h : SameByName tree tree') :
    tree.Perm tree' := by
  refine List.perm_iff_count.2 fun b => ?_
  have hname : ∀ t : List Block, (named b.firstKey t).count b = t.count b := fun t =>
    List.count_filter (by simp)
  rw [← hname tree, h b.firstKey, hname tree']

theorem text_eq_of_perm {tree tree' : List Block} (h : tree.Perm tree') :
    (Sections.ofTree tree).text = (Sections.ofTree tree').text := by
  have harranged : arranged tree = arranged tree' :=
    eq_arranged ((arranged_perm tree).trans (h.map sortWithin)) (arranged_pairwise tree)
  apply String.toList_injective
  rw [toList_text, toList_text, harranged]

/-! Lists in another order. -/

/-- The same list but for the order of neighbours that may change places, one pair after the
other. -/
inductive Relisted {α : Type} (free : α → α → Prop) : List α → List α → Prop
  | nil : Relisted free [] []
  | cons (x : α) {xs ys : List α} (h : Relisted free xs ys) : Relisted free (x :: xs) (x :: ys)
  | swap {x y : α} (h : free x y) (xs : List α) : Relisted free (x :: y :: xs) (y :: x :: xs)
  | trans {xs ys zs : List α} (h : Relisted free xs ys) (h' : Relisted free ys zs) :
    Relisted free xs zs

namespace Relisted

variable {α β : Type} {free : α → α → Prop} {xs ys xs' ys' : List α}

theorem refl (free : α → α → Prop) (xs : List α) : Relisted free xs xs := by
  induction xs with
  | nil => exact .nil
  | cons x xs ih => exact ih.cons x

theorem perm (h : Relisted free xs ys) : xs.Perm ys := by
  induction h with
  | nil => exact .nil
  | cons x _ ih => exact ih.cons x
  | swap _ xs => exact .swap _ _ xs
  | trans _ _ ih ih' => exact ih.trans ih'

theorem append_left (front : List α) (h : Relisted free xs ys) :
    Relisted free (front ++ xs) (front ++ ys) := by
  induction front with
  | nil => exact h
  | cons x front ih => exact ih.cons x

theorem append_right (h : Relisted free xs ys) (rest : List α) :
    Relisted free (xs ++ rest) (ys ++ rest) := by
  induction h with
  | nil => exact refl free rest
  | cons x _ ih => exact ih.cons x
  | swap hfree xs => exact .swap hfree (xs ++ rest)
  | trans _ _ ih ih' => exact ih.trans ih'

theorem append (h : Relisted free xs ys) (h' : Relisted free xs' ys') :
    Relisted free (xs ++ xs') (ys ++ ys') :=
  (h.append_right xs').trans (h'.append_left ys)

theorem map {f : α → β} {free' : β → β → Prop} (hf : ∀ x y, free x y → free' (f x) (f y))
    (h : Relisted free xs ys) : Relisted free' (xs.map f) (ys.map f) := by
  induction h with
  | nil => exact .nil
  | cons x _ ih => exact ih.cons (f x)
  | swap hfree xs => exact .swap (hf _ _ hfree) (xs.map f)
  | trans _ _ ih ih' => exact ih.trans ih'

theorem flatMap {γ : Type} {R : β → γ → Prop} {f : β → List α} {g : γ → List α}
    (hf : ∀ b c, R b c → Relisted free (f b) (g c)) {bs : List β} {cs : List γ}
    (h : List.Forall₂ R bs cs) : Relisted free (bs.flatMap f) (cs.flatMap g) := by
  induction h with
  | nil => exact .nil
  | cons hbc _ ih => exact (hf _ _ hbc).append ih

end Relisted

/-- It does not matter in which order trees are merged that share no name. -/
theorem sameByName_foldl_merge {trees trees' : List (List Block)} (h : Relisted NewNames trees trees')
    {base base' : List Block} (hbase : SameByName base base') :
    SameByName (trees.foldl merge base) (trees'.foldl merge base') := by
  induction h generalizing base base' with
  | nil => exact hbase
  | cons tree _ ih => exact ih (hbase.merge tree)
  | @swap a b hnew trees =>
    refine SameByName.foldl_merge (fun name => ?_) trees
    rw [sameByName_merge_comm hnew base name, ((hbase.merge b).merge a) name]
  | trans _ _ ih ih' => exact fun name => (ih hbase name).trans (ih' (fun _ => rfl) name)

theorem text_merged_eq {trees trees' : List (List Block)} (h : Relisted NewNames trees trees') :
    (Sections.ofTree (merged trees)).text = (Sections.ofTree (merged trees')).text :=
  text_eq_of_perm (sameByName_foldl_merge h fun _ => rfl).perm

/-! Cycles. -/

section

variable (o : Options) (g : Groups)

/-- The labels of the containers describe no blocks of the same name. -/
def Independent (a b : Container) : Prop :=
  NewNames (containerBlocks o g a).value (containerBlocks o g b).value

instance (a b : Container) : Decidable (Independent o g a b) :=
  inferInstanceAs (Decidable (NewNames _ _))

/-- The answer is the same, or it lists the same containers, of which independent ones have changed
places. -/
def Reordered (q : Query) (x y : Except Failure q.Answer) : Prop :=
  x = y ∨ match q with
    | .containers _ => Relisted (Independent o g) (elements x) (elements y)
    | _ => False

variable {o g}

theorem Reordered.eq {q : Query} {x y : Except Failure q.Answer} (h : Reordered o g q x y)
    (hq : ∀ all, q ≠ .containers all) : x = y := by
  rcases h with h | h
  · exact h
  · cases q with
    | containers all => exact absurd rfl (hq all)
    | _ => exact h.elim

theorem Reordered.relisted {all : Bool} {x y : Except Failure (List Container)}
    (h : Reordered o g (.containers all) x y) :
    Relisted (Independent o g) (elements x) (elements y) := by
  rcases h with rfl | h
  · exact .refl _ _
  · exact h

section

variable {s s' : Surroundings} (h : s.Related (fun _ => Reordered o g) s')
include h

theorem settled_of_reordered (m : Memory) : settled o s m = settled o s' m := by
  refine settled_congr (h.mono fun i q x y hxy hq => hxy.eq ?_) o m
  rintro all rfl
  exact hq

theorem swarmKnown_of_reordered (m : Memory) : swarmKnown s m = swarmKnown s' m :=
  swarmKnown_congr h (fun _ _ _ hxy => congrArg isActive (hxy.eq nofun)) m

theorem serviceShare_of_reordered :
    serviceShare o s.engines.zipIdx g = serviceShare o s'.engines.zipIdx g := by
  funext sv
  refine serviceShare_congr fun _ => tasksOf_congr (h.mono fun i q x y hxy hq => ?_)
  subst hq
  exact hxy.eq nofun

/-- What has a share in an engine's harvest has it in another order. -/
theorem relisted_engineShares {i : Nat} {e e' : Answers} (he : s.engines[i]? = some e)
    (he' : s'.engines[i]? = some e') (swarm : Bool) :
    Relisted (fun a b : Share => NewNames a.blocks b.blocks)
      (engineShares o s.engines.zipIdx g ((e, i), swarm))
      (engineShares o s'.engines.zipIdx g ((e', i), swarm)) := by
  have hanswers (q : Query) : Reordered o g q (e q) (e' q) := h.answers i e e' he he' q
  have hconfigs : e .configs = e' .configs := (hanswers .configs).eq nofun
  have hservices : e .services = e' .services := (hanswers .services).eq nofun
  have hconfig : configShare o (e, i) = configShare o (e', i) :=
    configShare_congr fun _ => (hanswers _).eq nofun
  have hcontainers : Relisted (fun a b : Share => NewNames a.blocks b.blocks)
      ((elements (e (.containers o.scanStopped))).map (containerShare o g))
      ((elements (e' (.containers o.scanStopped))).map (containerShare o g)) :=
    (hanswers (.containers o.scanStopped)).relisted.map fun _ _ hab => hab
  simp only [engineShares, hconfigs, hservices, hconfig, serviceShare_of_reordered h]
  exact (hcontainers.append_right _).append_left _

end

theorem relisted_cycleShares {s s' : Surroundings} {m : Memory}
    (h : s.Related (fun _ => Reordered o (settled o s m).2) s') :
    Relisted (fun a b : Share => NewNames a.blocks b.blocks) (cycleShares o s m)
      (cycleShares o s' m) := by
  rw [cycleShares, cycleShares, allShares, allShares, ← h.base, ← settled_of_reordered h,
    ← swarmKnown_of_reordered h]
  refine .cons _ (Relisted.flatMap (fun _ _ hee => hee) (forall₂_zipIdx_zip h.length _ ?_))
  intro i e e' swarm he he' _
  exact relisted_engineShares h he he' swarm

end

/-- Containers of which neighbours that share no name have changed places, however often and at
however many engines: the Caddyfile is the same, the servers are in another order at most, and the
next cycle starts from the same. -/
theorem caddyfile_of_reordered {α : Type} (o : Options) (validate : Validator α)
    (s s' : Surroundings) (m : Memory)
    (h : s.Related (fun _ => Reordered o (settled o s m).2) s') :
    (cycle o validate s m).value.1.caddyfile = (cycle o validate s' m).value.1.caddyfile ∧
      (cycle o validate s m).value.1.servers.Perm (cycle o validate s' m).value.1.servers ∧
      (cycle o validate s m).value.2 = (cycle o validate s' m).value.2 := by
  have hshares := relisted_cycleShares h
  rw [value_cycle, value_cycle]
  refine ⟨?_, ?_, ?_⟩
  · rw [text_merged_eq (hshares.map fun _ _ hab => hab)]
  · exact (hshares.perm.flatMap_right _).append_right _
  · rw [settled_of_reordered h, swarmKnown_of_reordered h]

def backend (site address : String) : Container :=
  { id := address,
    labels := Keyed.ofList [("caddy", site), ("caddy.reverse_proxy", "{{upstreams 80}}")],
    networks := Keyed.ofList [("net", ⟨"n1", address⟩)] }

def listing (containers : List Container) : Surroundings :=
  { engines := [fun
      | .containers _ => .ok containers
      | q => Engine.Inventory.answers {} q],
    own := .ok "controller" }

def bothSites : Surroundings :=
  listing [backend "a.example" "10.0.0.1", backend "b.example" "10.0.0.2",
    backend "b.example" "10.0.0.3", backend "a.example" "10.0.0.4"]

/-- The first two have changed places; the others join them, whichever comes first. -/
theorem caddyfile_of_reordered_bothSites :
    Independent {} (settled {} bothSites {}).2 (backend "a.example" "10.0.0.1")
        (backend "b.example" "10.0.0.2") ∧
      (cycle {} (fun _ => Except.ok ()) bothSites {}).value.1.caddyfile =
        (cycle {} (fun _ => Except.ok ()) (listing [backend "b.example" "10.0.0.2",
          backend "a.example" "10.0.0.1", backend "b.example" "10.0.0.3",
          backend "a.example" "10.0.0.4"]) {}).value.1.caddyfile := by
  have hfree : Independent {} (settled {} bothSites {}).2 (backend "a.example" "10.0.0.1")
      (backend "b.example" "10.0.0.2") := by decide +kernel
  refine ⟨hfree, (caddyfile_of_reordered {} _ _ _ {} ?_).1⟩
  refine Surroundings.related_change (fun _ _ _ => .inl rfl) bothSites 0
    (fun _ => (listing _).engines.headD default) fun e he q => ?_
  cases he
  cases q
  case containers all => exact .inr (.swap hfree _)
  all_goals exact .inl rfl

end ProxyFleet.Fleet
