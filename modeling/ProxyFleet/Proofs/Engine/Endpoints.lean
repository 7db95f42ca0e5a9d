import ProxyFleet.Engine.Endpoint
import ProxyFleet.Proofs.Net.UrlPort

/-!
Endpoints against what their texts spell: the path of a socket, alone or behind a scheme, and the
port of a host.
-/

namespace ProxyFleet.Engine.Endpoint

open Net (Url)
open Net.Url (Kept Ported components cleaned)

theorem startsWith_slash_iff {text : String} :
    text.startsWith "/" = true ↔ ∃ cs, text.toList = '/' :: cs := by
  rw [String.startsWith_string_iff]
  exact ⟨fun ⟨cs, h⟩ => ⟨cs, h.symm⟩, fun ⟨cs, h⟩ => ⟨cs, h.symm⟩⟩

theorem parse_path {path : String} (h : path.startsWith "/" = true) :
    parse path = .ok (.unix path) := by
  rw [parse, if_pos h]

/-- A path behind the scheme of sockets is always accepted. It leads through the same names as the
path alone exactly if a URL keeps all of its segments. -/
theorem exists_parse_unix {path : String} (h : path.startsWith "/" = true) :
    ∃ socket, parse ("unix://" ++ path) = .ok (.unix socket) ∧
      (components socket.toList = components path.toList ↔
        ∀ s ∈ path.toList.splitOn '/', Kept s) := by
  obtain ⟨cs, hpath⟩ := startsWith_slash_iff.1 h
  obtain ⟨rest, hurl, hrest⟩ := Net.Url.exists_parse_unix hpath
  have hscheme : ¬ ("unix://" ++ path).startsWith "/" = true := by
    rw [startsWith_slash_iff, String.toList_append]
    rintro ⟨more, hmore⟩
    exact absurd (List.cons.inj hmore).1 (by decide)
  refine ⟨_, by rw [parse, if_neg hscheme, hurl]; rfl, Net.Url.kept_of_components_eq,
    fun hkept => ?_⟩
  have hsegments : path.toList.splitOn '/' = [] :: cs.splitOn '/' := by
    rw [hpath, List.splitOn_cons_eq_if_modifyHead]
    rfl
  rw [hsegments] at hkept
  have hcs : ∀ s ∈ cs.splitOn '/', Kept s := (List.forall_mem_cons.1 hkept).2
  rw [hrest (Net.Url.isPlainInPath_of_kept hcs), Net.Url.components_rooted_of_kept hcs, hpath,
    Net.Url.components_slash]

variable (u : Ported)

/-- A URL with a port begins with a letter. -/
theorem not_startsWith_slash {text : String} (htext : cleaned text = u.chars) :
    ¬ text.startsWith "/" = true := by
  rw [startsWith_slash_iff]
  rintro ⟨cs, hcs⟩
  obtain ⟨rest, hcleaned, -⟩ := @Net.Url.exists_cleaned_slash text [] cs hcs nofun
  have halpha := fun c => u.isAlpha_of_mem_name (c := c)
  rw [htext, Ported.chars, List.nil_append] at hcleaned
  cases hname : u.name with
  | nil =>
    rw [hname] at hcleaned
    exact absurd (List.cons.inj hcleaned).1 (by decide)
  | cons c more =>
    rw [hname] at hcleaned halpha
    have hc := halpha c List.mem_cons_self
    rw [(List.cons.inj hcleaned).1] at hc
    exact absurd hc (by decide)

/-- A port that is implied is taken for none, and none for the default. -/
theorem getD_port : (if some u.port = Net.Url.webPorts.lookup u.scheme then none
      else some u.port).getD defaultPort =
    if u.scheme = "http" ∧ u.port = 80 then defaultPort else u.port := by
  rcases u.known with hknown | hknown
  · have himplied : Net.Url.webPorts.lookup "tcp" = none := by decide
    simp [hknown, himplied]
  · have himplied : Net.Url.webPorts.lookup "http" = some 80 := by decide
    simp only [hknown, himplied, Option.some.injEq, true_and]
    split <;> rfl

/-- The port that an endpoint gets is the one that is spelled, except that the port of the web is
taken for none where the scheme is of the web. -/
theorem parse_ported {text : String} (htext : cleaned text = u.chars) {e : Endpoint}
    (h : parse text = .ok e) :
    ∃ host, e = .tcp (host ++ ":" ++
      toString (if u.scheme = "http" ∧ u.port = 80 then defaultPort else u.port)) := by
  rw [parse, if_neg (not_startsWith_slash u htext)] at h
  split at h
  · cases h
  · next url hurl =>
    obtain ⟨hscheme, hport⟩ := u.port_of_parse htext hurl
    have hunix : u.scheme ≠ "unix" := by
      rcases u.known with hknown | hknown <;> rw [hknown] <;> decide
    have hknown : (u.scheme = "tcp" || u.scheme = "http") = true := by
      simpa using u.known
    rw [ofUrl, hscheme, if_neg hunix, if_pos hknown, hport, getD_port] at h
    split at h
    · cases h
    · cases h
      exact ⟨url.host, rfl⟩

/-- An endpoint at a host either has its port spelled in its text or gets the default one. -/
theorem exists_ported_or_default {text address : String} (h : parse text = .ok (.tcp address)) :
    (∃ u : Ported, cleaned text = u.chars) ∨
      ∃ host, address = host ++ ":" ++ toString defaultPort := by
  rw [parse] at h
  split at h
  · cases h
  · split at h
    · cases h
    · next url hurl =>
      rw [ofUrl] at h
      split at h
      · cases h
      · split at h
        · next hscheme =>
          split at h
          · cases h
          · cases h
            cases hport : url.port with
            | none => exact .inr ⟨url.host, rfl⟩
            | some n => exact .inl (Net.Url.exists_ported_of_parse hurl (by simpa using hscheme) hport)
        · cases h

theorem suffix_address (host : String) (port : Nat) :
    (":" ++ toString port).toList <:+ (host ++ ":" ++ toString port).toList := by
  rw [String.append_assoc, String.toList_append (s := host)]
  exact List.suffix_append _ _

/-- What endpoints mean against what their texts spell. A path behind the scheme of sockets leads
where the path alone does exactly if a URL keeps all of its segments. A port that is spelled is the
port of the endpoint exactly if it is not the port of the web in a URL of the web; and no endpoint
has another port than one that is spelled or the default one. -/
theorem endpoints_as_spelled (path text : String) :
    (path.startsWith "/" = true →
      parse path = .ok (.unix path) ∧
        ∃ socket, parse ("unix://" ++ path) = .ok (.unix socket) ∧
          (components socket.toList = components path.toList ↔
            ∀ s ∈ path.toList.splitOn '/', Kept s)) ∧
    (∀ (u : Ported) (e : Endpoint), cleaned text = u.chars → parse text = .ok e →
      ∃ address, e = .tcp address ∧
        ((":" ++ toString u.port).toList <:+ address.toList ↔
          ¬ (u.scheme = "http" ∧ u.port = 80))) ∧
    ∀ address, parse text = .ok (.tcp address) →
      (∃ u : Ported, cleaned text = u.chars) ∨
        ∃ host, address = host ++ ":" ++ toString defaultPort := by
  refine ⟨fun h => ⟨parse_path h, exists_parse_unix h⟩, fun u e htext h => ?_,
    fun address h => exists_ported_or_default h⟩
  obtain ⟨host, rfl⟩ := parse_ported u htext h
  refine ⟨_, rfl, ?_⟩
  by_cases hweb : u.scheme = "http" ∧ u.port = 80
  · rw [if_pos hweb, hweb.2]
    refine iff_of_false (fun hsuffix => ?_) (fun hspelled => hspelled ⟨hweb.1, rfl⟩)
    have hdefault := suffix_address host defaultPort
    exact absurd (List.suffix_of_suffix_length_le hsuffix hdefault (by decide)) (by decide)
  · rw [if_neg hweb]
    exact iff_of_true (suffix_address host u.port) hweb

/-- The text `TCP://admin@10.0.0.1:2376/`, in pieces. -/
def respelled : Ported where
  scheme := "tcp"
  name := ['T', 'C', 'P']
  slashes := ['/', '/']
  user := "admin@".toList
  host := "10.0.0.1".toList
  digits := "2376".toList
  tail := ['/']
  known := by decide
  named := by decide
  slashed := by decide
  within := by simp [Net.Url.endsAuthority, Net.Url.isWeb]
  userEnds := .inr ⟨"admin".toList, by decide⟩
  hostEnds := by decide
  numeric := ⟨by decide, List.all_eq_true.1 (by decide)⟩
  tailBegins := by simp
  noUser := by decide

theorem endpoints_as_spelled_plain :
    (∃ socket, parse ("unix://" ++ "/run/./podman.sock") = .ok (.unix socket) ∧
      components socket.toList = components "/run/./podman.sock".toList) ∧
    (∃ address, parse "TCP://admin@10.0.0.1:2376/" = .ok (.tcp address) ∧
      ":2376".toList <:+ address.toList) ∧
    ((∃ u : Ported, cleaned "tcp://docker" = u.chars) ∨
      ∃ host, "docker:2375" = host ++ ":" ++ toString defaultPort) := by
  have hpath := (endpoints_as_spelled "/run/./podman.sock" "").1
  obtain ⟨-, socket, hsocket, hsame⟩ := hpath (by decide +kernel)
  have hport := (endpoints_as_spelled "" "TCP://admin@10.0.0.1:2376/").2.1
  have hparse : parse "TCP://admin@10.0.0.1:2376/" = .ok (.tcp "10.0.0.1:2376") := by
    decide +kernel
  obtain ⟨address, haddress, hspelled⟩ := hport respelled _ (by decide +kernel) hparse
  have hbare := (endpoints_as_spelled "" "tcp://docker").2.2
  exact ⟨⟨socket, hsocket, hsame.2 (by decide)⟩,
    ⟨address, haddress ▸ hparse, hspelled.2 (by decide)⟩,
    hbare "docker:2375" (by decide +kernel)⟩

/-- A space in a path, and the port of the web. -/
theorem not_as_spelled :
    parse "/run/my docker.sock" = .ok (.unix "/run/my docker.sock") ∧
      parse "unix:///run/my docker.sock" = .ok (.unix "/run/my%20docker.sock") ∧
      parse "tcp://127.0.0.1:80" = .ok (.tcp "127.0.0.1:80") ∧
      parse "http://127.0.0.1:80" = .ok (.tcp "127.0.0.1:2375") := by
  refine ⟨?_, ?_, ?_, ?_⟩ <;> decide +kernel

end ProxyFleet.Engine.Endpoint
