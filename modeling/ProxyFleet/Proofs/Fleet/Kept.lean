import ProxyFleet.Caddyfile.Prune
import ProxyFleet.Proofs.Caddyfile.RoundTrip
import ProxyFleet.Proofs.Caddyfile.SelfContained
import ProxyFleet.Text.Occurs

/-!
What is left of a text if no block is rejected: the words that were read, written again. A site that
is read as it is written is left if what is ahead of it is self-contained.
-/

namespace ProxyFleet.Fleet

open Caddyfile

/-- What is left of a text if every Caddyfile is valid. -/
def kept (text : String) : String := (prune (Except.ok : Validator String) text).text

theorem text_foldl_offer (blocks : List String) (p : Pruned) :
    (blocks.foldl (Pruned.offer (Except.ok : Validator String)) p).text =
      p.text ++ String.join blocks := by
  induction blocks generalizing p with
  | nil => simp
  | cons b rest ih =>
    rw [List.foldl_cons, ih, String.join_cons, ← String.append_assoc]
    rfl

theorem kept_eq (text : String) : kept text = String.join ((parse text).blocks.map renderBlock) := by
  unfold kept prune
  rw [text_foldl_offer, String.empty_append]

theorem toList_join_renderBlock (bs : List Block) :
    (String.join (bs.map renderBlock)).toList = writtenAll 0 (sortEach bs) := by
  induction bs with
  | nil => rfl
  | cons b bs ih =>
    rw [List.map_cons, String.join_cons, String.toList_append, toList_renderBlock, ih, sortEach,
      writtenAll]

theorem toList_kept (text : String) :
    (kept text).toList = writtenAll 0 (sortEach (parse text).blocks) := by
  rw [kept_eq, toList_join_renderBlock]

theorem lays_kept (text : String) :
    Lays (wordsIn (sortEach (parse text).blocks)) (kept text).toList := by
  have h := Lays.writtenAll 0 (sortEach (parse text).blocks) Lays.nil
  rwa [List.append_nil, List.append_nil, ← toList_kept] at h

/-- What is left is made of the words that were read and of closing braces. -/
theorem wordsIn_parse (text : String) : ∃ n, (wordsIn (parse text).blocks).Sublist
    (texts text.toList ++ List.replicate n closeBrace) := by
  obtain ⟨n, hn⟩ := Draft.follows_start.wordsIn_readAll (tokens text)
  exact ⟨n, hn⟩

theorem count_kept_le {c : Char} (hq : c ≠ '"') (hs : c ≠ '\\') (hb : c ≠ backtick)
    (hc : Text.isBlank c = false) (hbrace : c ≠ '\x7d') (text : String) :
    (kept text).toList.count c ≤ text.toList.count c := by
  obtain ⟨n, hn⟩ := wordsIn_parse text
  have hclose : charCount c (List.replicate n closeBrace) = 0 := by
    unfold charCount
    rw [List.count_eq_zero, List.mem_flatMap]
    rintro ⟨w, hw, hc⟩
    rw [List.eq_of_mem_replicate hw] at hc
    exact hbrace (List.mem_singleton.1 hc)
  have hle := charCount_sublist c hn
  rw [charCount_append, hclose, Nat.add_zero] at hle
  rw [(lays_kept text).count hq hs hb hc, charCount_perm c (wordsIn_sortEach_perm _)]
  exact Nat.le_trans hle (charCount_tokensFrom_le c 1 text.toList)

theorem toList_renderBlock_placed {b : Block} (h : Faithful [b]) (order : Int) :
    (renderBlock (placed orderAt order (sortWithin b))).toList = (renderBlock b).toList := by
  rw [toList_renderBlock, toList_renderBlock, settled_sortWithin b h.fewBelow, written_placed]

theorem occursIn_join {text : String} {parts : List String} (h : text ∈ parts) :
    Text.occursIn text.toList (String.join parts).toList = true := by
  obtain ⟨as, bs, rfl⟩ := List.append_of_mem h
  rw [Text.occursIn_iff, String.join_append, String.join_cons, String.toList_append,
    String.toList_append]
  exact ⟨_, _, (List.append_assoc _ _ _).symm⟩

theorem sound_sortWithin {b : Block} (h : ∀ x ∈ blocksIn [b], Sound x) :
    ∀ x ∈ blocksIn [sortWithin b], Sound x := by
  have hs := (forall_blocksIn_sort (fun _ _ => Sound.of_shape) [b]).2 h
  rwa [sort, sortEach, sortEach, sortLevel_singleton] at hs

theorem occursIn_kept {text : String} {cs rest : List Char} {b : Block}
    (ht : text.toList = cs ++ ((renderBlock b).toList ++ rest)) (hc : SelfContained cs)
    (hw : WholeLines cs) (hb : Faithful [b]) :
    Text.occursIn (renderBlock b).toList (kept text).toList = true := by
  obtain ⟨order, hmem⟩ := hc.closed.below_parse hw ((fault_parse_iff cs).1 hc.balanced)
    (sound_sortWithin hb.sound) rest
  rw [← toList_renderBlock, ← ht, String.ofList_toList] at hmem
  rw [kept_eq, ← toList_renderBlock_placed hb order]
  exact occursIn_join (List.mem_map_of_mem hmem)

end ProxyFleet.Fleet
