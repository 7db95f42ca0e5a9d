import ProxyFleet.Engine.Inventory
import ProxyFleet.Proofs.Caddyfile.Mute
import ProxyFleet.Proofs.Fleet.Arranged
import ProxyFleet.Proofs.Fleet.Kept
import ProxyFleet.Proofs.Fleet.Shares

/-!
Whether a generated Caddyfile has words in it. It is the placeholder if no block is left to write,
and has a word if a block is left that has one. Blocks that have none are written all the same, and
a Caddyfile of such blocks alone is neither.
-/

namespace ProxyFleet.Caddyfile

variable {α : Type}

/-- The blocks that a validator accepts, each behind the ones it accepted before. -/
def accepted (validate : Validator α) (text : String) : List Block → List Block
  | [] => []
  | b :: rest =>
    match validate (text ++ renderBlock b) with
    | .ok _ => b :: accepted validate (text ++ renderBlock b) rest
    | .error _ => accepted validate text rest

theorem text_foldl_offer_accepted (validate : Validator α) (blocks : List Block) (p : Pruned) :
    ((blocks.map renderBlock).foldl (Pruned.offer validate) p).text =
      p.text ++ String.join ((accepted validate p.text blocks).map renderBlock) := by
  induction blocks generalizing p with
  | nil => simp [accepted]
  | cons b rest ih =>
    rw [List.map_cons, List.foldl_cons, ih, accepted, Pruned.offer]
    cases validate (p.text ++ renderBlock b) with
    | ok _ =>
      dsimp only
      rw [List.map_cons, String.join_cons, String.append_assoc]
    | error _ => rfl

theorem text_prune (validate : Validator α) (text : String) :
    (prune validate text).text =
      String.join ((accepted validate "" (parse text).blocks).map renderBlock) := by
  rw [prune, text_foldl_offer_accepted, String.empty_append]

end ProxyFleet.Caddyfile

namespace ProxyFleet.Fleet

open Caddyfile

/-- A Caddyfile that stands for no configuration, or from which a word is read. -/
def Worded (caddyfile : String) : Prop := caddyfile = emptyCaddyfile ∨ tokens caddyfile ≠ []

instance (caddyfile : String) : Decidable (Worded caddyfile) :=
  inferInstanceAs (Decidable (caddyfile = emptyCaddyfile ∨ tokens caddyfile ≠ []))

/-- The placeholder is taken if and only if there is no block to write. -/
theorem worded_orEmpty_iff {text : String} {bs : List Block} (h : text.toList = writtenAll 0 bs) :
    Worded (orEmpty text) ↔ bs = [] ∨ ∃ b ∈ bs, ¬ Mute b := by
  cases bs with
  | nil =>
    obtain rfl : text = "" := String.toList_inj.1 h
    exact iff_of_true (.inl rfl) (.inl rfl)
  | cons b bs =>
    have hwhole := wholeLines_writtenAll 0 (b :: bs)
    rw [← h] at hwhole
    have hne : text ≠ "" := by
      rintro rfl
      obtain ⟨line, hline⟩ := exists_written_eq 0 b
      rw [writtenAll, hline, List.append_assoc] at h
      exact absurd (congrArg List.length h) (by simp)
    have hfull : text ≠ emptyCaddyfile := by
      rintro rfl
      exact absurd (hwhole 'e' (by decide)) (by decide)
    have hwords : tokens text ≠ [] ↔ ∃ b' ∈ b :: bs, ¬ Mute b' := by
      rw [tokens, Ne, tokensFrom_eq_nil_iff, h, silent_writtenAll_iff]
      simp only [Classical.not_forall, exists_prop]
    rw [Worded, orEmpty, if_neg hne, or_iff_right hfull, hwords, or_iff_right (by simp)]

variable {α : Type} (o : Options) (validate : Validator α) (s : Surroundings) (m : Memory)

def gathered : List Block := merged ((cycleShares o s m).map (·.blocks))

/-- The blocks that a cycle writes: all that are gathered, or of their text those that the validator
accepts. -/
def listedBlocks : List Block :=
  if o.prune then accepted validate "" (parse (Sections.ofTree (gathered o s m)).text).blocks
  else gathered o s m

/-- The Caddyfile of a cycle is made of the blocks it writes, in some order. -/
theorem exists_caddyfile_eq :
    ∃ text bs, (cycle o validate s m).value.1.caddyfile = orEmpty text ∧
      text.toList = writtenAll 0 bs ∧ bs.Perm ((listedBlocks o validate s m).map sortWithin) := by
  rw [value_cycle, finished, listedBlocks]
  cases o.prune with
  | false => exact ⟨_, _, rfl, toList_text _, arranged_perm _⟩
  | true =>
    refine ⟨_, _, rfl, ?_, .refl _⟩
    rw [if_pos rfl, text_prune, toList_join_renderBlock, sortEach_eq_map]
    rfl

/-- The Caddyfile of a cycle is the placeholder or has words in it exactly if there is no block to
write or one of them has a word. Only blocks without children have none, whose first key begins a
comment if they have keys. -/
theorem caddyfile_worded_iff :
    (Worded (cycle o validate s m).value.1.caddyfile ↔
      listedBlocks o validate s m = [] ∨ ∃ b ∈ listedBlocks o validate s m, ¬ Mute b) ∧
    ∀ b : Block, Mute b → b.children = [] ∧
      ∀ key ∈ b.keys.head?, needsQuotes key.toList = false ∧ key.toList.head? = some '#' := by
  refine ⟨?_, fun b h => h.begins⟩
  obtain ⟨text, bs, hcaddyfile, htext, hbs⟩ := exists_caddyfile_eq o validate s m
  rw [hcaddyfile, worded_orEmpty_iff htext]
  refine or_congr ?_ ?_
  · rw [← List.length_eq_zero_iff, hbs.length_eq, List.length_map, List.length_eq_zero_iff]
  · simp only [hbs.mem_iff, List.mem_map, exists_exists_and_eq_and, mute_sortWithin_iff]

def withLabel (value : String) : Surroundings :=
  { engines := [Engine.Inventory.answers
      { containers := [{ id := "w1", labels := Keyed.ofList [("caddy", value)] }] }],
    own := .ok "controller" }

theorem caddyfile_worded_site :
    Worded (cycle {} (fun _ => Except.ok ()) (withLabel "a.example") {}).value.1.caddyfile ∧
      (⟨["#x", "a"], 0, []⟩ : Block).children = [] := by
  obtain ⟨hiff, hmute⟩ := caddyfile_worded_iff {} (fun _ => Except.ok ()) (withLabel "a.example") {}
  exact ⟨hiff.2 (.inr (by decide +kernel)), (hmute _ (by decide)).1⟩

/-- A label without a value leaves a blank line, and a quoted number sign a comment even if every
block is validated. -/
theorem not_worded_of_empty_label :
    (cycle { prune := false } (fun _ => Except.ok ()) (withLabel "") {}).value.1.caddyfile = "\n" ∧
      ¬ Worded "\n" ∧
      (cycle {} (fun _ => Except.ok ()) (withLabel "\"\x60#x\x60\"") {}).value.1.caddyfile =
        "#x\n" ∧
      ¬ Worded "#x\n" := by
  refine ⟨?_, ?_, ?_, ?_⟩ <;> decide +kernel

end ProxyFleet.Fleet
