import LoveApi.SsrfProtection

/-!
# What `ValidateURL` accepts

An accepted URL has an allowed scheme, and all addresses of its host are allowed; a domain list is not safe against
a dot at the end of a name.
-/

namespace LoveApi.Proofs

open Go List Option

section Hosts

variable {c : Char} {s before after host port : List Char}

lemma cutLast_eq_none_iff : cutLast c s = none ↔ c ∉ s := by
  induction s with
  | nil => simp [cutLast]
  | cons x s ih =>
    unfold cutLast
    cases hrest : cutLast c s with
    | some cut =>
      have hmem : c ∈ s := by
        by_contra hnot
        rw [ih.mpr hnot] at hrest
        cases hrest
      simp [hmem]
    | none =>
      have hnot := ih.mp hrest
      by_cases hx : x = c
      · simp [hx]
      · simp [hx, hnot, Ne.symm hx]

lemma cutLast_append (hnot : c ∉ after) : cutLast c (before ++ c :: after) = some (before, after) := by
  induction before with
  | nil => simp [cutLast, cutLast_eq_none_iff.mpr hnot]
  | cons x before ih => simp [cutLast, ih]

lemma eq_of_cutLast (h : cutLast c s = some (before, after)) : s = before ++ c :: after ∧ c ∉ after := by
  have hmem : c ∈ s := by
    by_contra hnot
    rw [cutLast_eq_none_iff.mpr hnot] at h
    cases h
  obtain ⟨front, back, hnot, hs⟩ : ∃ front back, c ∉ back ∧ s = front ++ c :: back := by
    obtain ⟨back, front, hnot, hs⟩ := eq_append_cons_of_mem (mem_reverse.mpr hmem)
    exact ⟨front.reverse, back.reverse, by simpa using hs, by simpa using congrArg reverse hnot⟩
  rw [hs, cutLast_append hnot] at h
  cases h
  exact ⟨hs, hnot⟩

lemma eq_of_cutFirst (h : cutFirst c s = some (before, after)) : s = before ++ c :: after := by
  induction s generalizing before with
  | nil => cases h
  | cons x s ih =>
    unfold cutFirst at h
    split at h
    · next hx =>
      obtain ⟨rfl, rfl⟩ := Prod.mk.inj (some.inj h)
      exact congrArg (· :: s) hx
    · obtain ⟨cut, hcut, hsame⟩ := map_eq_some_iff.mp h
      obtain ⟨rfl, rfl⟩ := Prod.mk.inj hsame
      exact congrArg (x :: ·) (ih hcut)

lemma splitHostPort_bracket {rest : List Char} (h : splitHostPort ('[' :: rest) = .ok (host, port)) :
    rest = host ++ ']' :: ':' :: port ∧ ':' ∉ port ∧ ']' ∉ port := by
  unfold splitHostPort at h
  split at h
  · cases h
  next front last hlast =>
  simp only at h
  split at h
  · cases h
  next inner after hfirst =>
  split_ifs at h with _ hafter _ _ hopen
  cases h
  have hafter := not_not.mp hafter
  refine ⟨hafter ▸ eq_of_cutFirst hfirst, (eq_of_cutLast hlast).2, fun hmem => hopen ?_⟩
  rw [hafter]
  exact mem_cons_of_mem _ hmem

lemma splitHostPort_plain {hostport : List Char} (hplain : hostport.head? ≠ some '[')
    (h : splitHostPort hostport = .ok (host, port)) :
    cutLast ':' hostport = some (host, port) ∧ '[' ∉ host := by
  unfold splitHostPort at h
  split at h
  · cases h
  next front last hlast =>
  split at h
  · next rest => exact absurd rfl hplain
  split_ifs at h with _ hopen _
  cases h
  refine ⟨hlast, fun hmem => hopen ?_⟩
  rw [(eq_of_cutLast hlast).1]
  exact mem_append_left _ hmem

lemma hostnamePort_of_splitHostPort {u : ParsedURL} (h : splitHostPort u.host = .ok (host, port)) :
    u.hostnamePort = (host, port) := by
  have hvalid := u.valid
  by_cases hbracket : u.host.head? = some '['
  · obtain ⟨rest, hhost⟩ : ∃ rest, u.host = '[' :: rest := head?_eq_some_iff.mp hbracket
    rw [hhost] at h
    obtain ⟨rfl, hcolon, hclose⟩ := splitHostPort_bracket h
    have hlast : cutLast ']' u.host = some ('[' :: host, ':' :: port) := by
      rw [hhost, ← cons_append]
      exact cutLast_append (by simp [hclose])
    have hport : validOptionalPort (':' :: port) := by
      unfold validHost at hvalid
      rw [hhost] at hvalid hlast
      simpa only [hlast] using hvalid
    have hcut : cutLast ':' u.host = some ('[' :: host ++ [']'], port) := by
      rw [hhost, ← cutLast_append hcolon]
      simp
    have hend : ('[' :: (host ++ [']'])).getLast? = some ']' := by
      rw [← cons_append, getLast?_concat]
    simp [ParsedURL.hostnamePort, hcut, hport, hend]
  · obtain ⟨hcut, hopen⟩ := splitHostPort_plain hbracket h
    have hport : validOptionalPort (':' :: port) := by
      unfold validHost at hvalid
      split at hvalid
      · next heq => exact absurd (congrArg head? heq) hbracket
      · simpa only [hcut] using hvalid
    have hhead : host.head? ≠ some '[' := fun hhead => hopen (mem_of_head? hhead)
    simp [ParsedURL.hostnamePort, hcut, hport, hhead]

end Hosts

/-! ### Names of one host -/

section Names

variable {s t front : List Char}

def dropDot (name : List Char) : List Char := if name.getLast? = some '.' then name.dropLast else name

/-- The name with a dot at its end, or without it if it has one; a name with two dots there has no other spelling. -/
def otherSpelling (name : List Char) : List Char :=
  if (dropDot name).getLast? = some '.' then name
  else if name.getLast? = some '.' then dropDot name
  else name ++ ['.']

@[simp]
lemma dropDot_concat : dropDot (front ++ ['.']) = front := by
  simp [dropDot]

lemma dropDot_of_ne (h : s.getLast? ≠ some '.') : dropDot s = s := if_neg h

lemma dropDot_eq_iff : dropDot s = dropDot t ↔ s = t ∨ s = otherSpelling t := by
  unfold otherSpelling
  by_cases ht : t.getLast? = some '.'
  · obtain ⟨tfront, rfl⟩ := getLast?_eq_some_iff.mp ht
    rw [dropDot_concat, if_pos ht]
    by_cases hs : s.getLast? = some '.'
    · obtain ⟨sfront, rfl⟩ := getLast?_eq_some_iff.mp hs
      split_ifs <;> grind [dropDot_concat]
    · rw [dropDot_of_ne hs]
      split_ifs <;> grind
  · rw [dropDot_of_ne ht, if_neg ht, if_neg ht]
    by_cases hs : s.getLast? = some '.'
    · obtain ⟨sfront, rfl⟩ := getLast?_eq_some_iff.mp hs
      grind [dropDot_concat]
    · grind [dropDot_of_ne hs]

lemma mem_otherSpelling {c : Char} (h : c ∈ otherSpelling s) : c ∈ s ∨ c = '.' := by
  unfold otherSpelling dropDot at h
  split_ifs at h
  · exact .inl h
  · exact .inl (dropLast_subset _ h)
  · simpa using h

/-- `strings.ToLower` lowers every character for itself; a lowered character and the dot stay as they are. -/
structure LowersChars (toLower : String → String) (lower : Char → Char) : Prop where
  chars : ∀ s, (toLower s).toList = s.toList.map lower
  lowered : ∀ c, lower (lower c) = lower c
  dot : lower '.' = '.'

lemma LowersChars.otherSpelling {toLower : String → String} {lower : Char → Char} (h : LowersChars toLower lower)
    (name : String) : toLower (String.ofList (otherSpelling (toLower name).toList)) =
      String.ofList (otherSpelling (toLower name).toList) := by
  apply String.toList_injective
  rw [h.chars, String.toList_ofList]
  refine (map_congr_left fun c hc => ?_).trans (List.map_id _)
  rcases mem_otherSpelling hc with hmem | rfl
  · rw [h.chars] at hmem
    obtain ⟨c, -, rfl⟩ := mem_map.mp hmem
    exact h.lowered c
  · exact h.dot

end Names

/-! ### Accepted URLs -/

section

variable (lib : SSRFLibraries) (p : SSRFProtection)
variable {ip : IP} {host urlStr : String} {u : ParsedURL}

def SameName (name host : String) : Prop := dropDot (lib.toLower name).toList = dropDot (lib.toLower host).toList

def DomainListed (host : String) : Prop := ∃ name, SameName lib name host ∧ isDomainListed lib name p.domainList

def IpListed (ip : IP) : Prop :=
  ∃ entry ∈ p.ipList, (∃ network, lib.parseCIDR entry = some network ∧ network.contains ip) ∨
    (lib.parseCIDR entry = none ∧ ∃ address, lib.parseIP entry = some address ∧ ip.equal address)

def HostAddress (u : ParsedURL) (ip : IP) : Prop :=
  lib.parseIP u.hostname = some ip ∨
    (lib.parseIP u.hostname = none ∧ ∃ ips, lib.lookupIP u.hostname = .ok ips ∧ ip ∈ ips)

def effectivePort (u : ParsedURL) : String := if u.port = "" then SSRFProtection.defaultPort u.scheme else u.port

/-- A URL that the settings allow, at every address of its host. -/
structure SafeURL (u : ParsedURL) : Prop where
  scheme : u.scheme = "http" ∨ u.scheme = "https"
  port : ∃ port, atoi (effectivePort u) = some port ∧ (p.allowedPorts = [] ∨ port ∈ p.allowedPorts)
  notPrivate : ∀ ip, HostAddress lib u ip → isPrivateIP ip = false
  address : ∀ ip, HostAddress lib u ip → (IpListed lib p ip ↔ p.ipFilterMode = true)
  domain : lib.parseIP u.hostname = none → (DomainListed lib p u.hostname ↔ p.domainFilterMode = true)

variable {lib p}

lemma isIpInCIDRList_iff : isIpInCIDRList lib ip p.ipList = true ↔ IpListed lib p ip := by
  unfold isIpInCIDRList IpListed
  rw [List.any_eq_true]
  refine exists_congr fun entry => and_congr_right fun _ => ?_
  cases hcidr : lib.parseCIDR entry with
  | some network => simp
  | none => cases hip : lib.parseIP entry <;> simp

lemma isIPAccessAllowed_iff (hprivate : p.allowPrivateIp = false) :
    p.isIPAccessAllowed lib ip = true ↔ isPrivateIP ip = false ∧ (IpListed lib p ip ↔ p.ipFilterMode = true) := by
  unfold SSRFProtection.isIPAccessAllowed
  rw [hprivate, ← isIpInCIDRList_iff]
  cases isPrivateIP ip <;> cases p.ipFilterMode <;> cases isIpInCIDRList lib ip p.ipList <;> simp

lemma isDomainListed_of_sameName {name : String} (h : SameName lib name host)
    (hlisted : isDomainListed lib name p.domainList = true) :
    isDomainListed lib host p.domainList = true ∨
      p.domainList.any (matchesItem lib (String.ofList (otherSpelling (lib.toLower host).toList))) = true := by
  rcases dropDot_eq_iff.mp h with heq | heq
  · have hlower : lib.toLower name = lib.toLower host := String.toList_injective heq
    refine .inl ?_
    unfold isDomainListed at hlisted ⊢
    rwa [← hlower]
  · refine .inr ?_
    rw [← heq, String.ofList_toList]
    exact hlisted

lemma validateURL_ok (hparse : lib.parseURL urlStr = .ok u) (h : p.validateURL lib urlStr = .ok ()) :
    (u.scheme = "http" ∨ u.scheme = "https") ∧ (∃ port, atoi (match splitHostPort u.host with
        | .ok (_, port) => String.ofList port
        | .error _ => SSRFProtection.defaultPort u.scheme) = some port ∧ p.isAllowedPort port = true) ∧
      match lib.parseIP u.hostname with
      | some ip => p.validateIP lib ip = .ok ()
      | none => p.validateDomain lib u.hostname = .ok () := by
  unfold SSRFProtection.validateURL at h
  simp only [hparse] at h
  split_ifs at h with hscheme
  refine ⟨by tauto, ?_⟩
  cases hsplit : splitHostPort u.host with
  | error err =>
    simp only [hsplit] at h ⊢
    split at h
    · cases h
    next port hport =>
    split_ifs at h with hallowed
    refine ⟨⟨port, hport, by simpa using hallowed⟩, ?_⟩
    split at h <;> simp_all
  | ok found =>
    obtain ⟨host, portStr⟩ := found
    have hname : u.hostname = String.ofList host := by
      rw [ParsedURL.hostname, hostnamePort_of_splitHostPort hsplit]
    simp only [hsplit] at h ⊢
    split at h
    · cases h
    next port hport =>
    split_ifs at h with hallowed
    refine ⟨⟨port, hport, by simpa using hallowed⟩, ?_⟩
    split at h <;> simp_all

lemma validateDomain_ok (hfilter : p.applyIPFilterForDomain = true) (h : p.validateDomain lib host = .ok ()) :
    p.isDomainAllowed lib host = true ∧
      ∀ ips, lib.lookupIP host = .ok ips → ∀ ip ∈ ips, p.isIPAccessAllowed lib ip = true := by
  unfold SSRFProtection.validateDomain at h
  split_ifs at h with hdomain _ hskip
  · rw [hfilter] at hskip
    cases hskip
  · refine ⟨by simpa using hdomain, fun ips hips ip hip => ?_⟩
    simp only [hips] at h
    split at h
    · cases h
    · next hnone => simpa using find?_eq_none.mp hnone ip hip

lemma hostAddress_allowed (hparse : lib.parseURL urlStr = .ok u)
    (hfilter : p.applyIPFilterForDomain = true) (h : p.validateURL lib urlStr = .ok ())
    (hip : HostAddress lib u ip) : p.isIPAccessAllowed lib ip = true := by
  obtain ⟨-, -, hhost⟩ := validateURL_ok hparse h
  rcases hip with hlit | ⟨hnone, ips, hips, hmem⟩
  · rw [hlit] at hhost
    simp only [SSRFProtection.validateIP] at hhost
    split_ifs at hhost with hallowed
    exact hallowed
  · rw [hnone] at hhost
    exact (validateDomain_ok hfilter hhost).2 ips hips ip hmem

lemma effectivePort_allowed (hparse : lib.parseURL urlStr = .ok u)
    (hseen : u.port = "" ∨ (splitHostPort u.host).isOk) (h : p.validateURL lib urlStr = .ok ()) :
    ∃ port, atoi (effectivePort u) = some port ∧ p.isAllowedPort port = true := by
  obtain ⟨-, ⟨port, hport, hallowed⟩, -⟩ := validateURL_ok hparse h
  refine ⟨port, ?_, hallowed⟩
  rw [← hport]
  congr 1
  unfold effectivePort
  cases hsplit : splitHostPort u.host with
  | error err =>
    have hnone : u.port = "" := hseen.resolve_right (by simp [hsplit, Except.isOk, Except.toBool])
    rw [if_pos hnone]
  | ok found =>
    have hfound : u.port = String.ofList found.2 := by
      rw [ParsedURL.port, hostnamePort_of_splitHostPort hsplit]
    have hsome : u.port ≠ "" := by
      -- the empty text is no number
      intro hempty
      simp only [hsplit] at hport
      rw [← hfound, hempty] at hport
      cases (show none = some port from hport)
    rw [if_neg hsome, hfound]

/-- `net.SplitHostPort` sees the port of the URL, if it has one, or that port is allowed as well. -/
def PortChecked (p : SSRFProtection) (u : ParsedURL) : Prop :=
  u.port = "" ∨ (splitHostPort u.host).isOk ∨ ∃ port, atoi u.port = some port ∧ p.isAllowedPort port = true

lemma effectivePort_allowed_iff (hparse : lib.parseURL urlStr = .ok u) (h : p.validateURL lib urlStr = .ok ()) :
    (∃ port, atoi (effectivePort u) = some port ∧ p.isAllowedPort port = true) ↔ PortChecked p u := by
  unfold PortChecked
  by_cases hport : u.port = ""
  · exact iff_of_true (effectivePort_allowed hparse (.inl hport) h) (.inl hport)
  · rw [effectivePort, if_neg hport, or_iff_right hport]
    refine ⟨.inr, fun hchecked => hchecked.elim (fun hseen => ?_) id⟩
    simpa only [effectivePort, if_neg hport] using effectivePort_allowed hparse (.inr hseen) h

/-- The blacklist has no entry for the other spelling of the host's name. -/
def OtherSpellingUnlisted (lib : SSRFLibraries) (p : SSRFProtection) (host : String) : Prop :=
  p.domainList.any (matchesItem lib (String.ofList (otherSpelling (lib.toLower host).toList))) = false
deriving Decidable

lemma domainListed_iff {lower : Char → Char} (hlower : LowersChars lib.toLower lower) :
    DomainListed lib p host ↔ isDomainListed lib host p.domainList = true ∨ ¬OtherSpellingUnlisted lib p host := by
  unfold OtherSpellingUnlisted
  rw [Bool.not_eq_false]
  constructor
  · rintro ⟨name, hsame, hlisted⟩
    exact isDomainListed_of_sameName hsame hlisted
  · rintro (hlisted | hlisted)
    · exact ⟨host, rfl, hlisted⟩
    · have hspelled := hlower.otherSpelling host
      refine ⟨String.ofList (otherSpelling (lib.toLower host).toList), ?_, ?_⟩
      · rw [SameName, hspelled, String.toList_ofList]
        exact dropDot_eq_iff.mpr (.inr rfl)
      · rwa [isDomainListed, hspelled]

/-- An accepted URL is one that the configuration lets through exactly when its port was checked and a blacklist does
not have its host under the other spelling. -/
theorem safeURL_iff_of_validateURL (lib : SSRFLibraries) (lower : Char → Char)
    (hlower : LowersChars lib.toLower lower) (p : SSRFProtection) (urlStr : String) (u : ParsedURL)
    (hprivate : p.allowPrivateIp = false) (hfilter : p.applyIPFilterForDomain = true)
    (hparse : lib.parseURL urlStr = .ok u) (haccepted : p.validateURL lib urlStr = .ok ()) :
    SafeURL lib p u ↔ PortChecked p u ∧
      (p.domainFilterMode = false → lib.parseIP u.hostname = none → OtherSpellingUnlisted lib p u.hostname) := by
  have haddress : ∀ ip, HostAddress lib u ip → isPrivateIP ip = false ∧ (IpListed lib p ip ↔ p.ipFilterMode = true) :=
    fun ip hip => (isIPAccessAllowed_iff hprivate).mp (hostAddress_allowed hparse hfilter haccepted hip)
  have hports (port : Int) : p.isAllowedPort port = true ↔ p.allowedPorts = [] ∨ port ∈ p.allowedPorts := by
    simp [SSRFProtection.isAllowedPort]
  obtain ⟨hscheme, -, hhost⟩ := validateURL_ok hparse haccepted
  -- what the check of the domain says about the two spellings of its name
  have hdomain : (lib.parseIP u.hostname = none → (DomainListed lib p u.hostname ↔ p.domainFilterMode = true)) ↔
      (p.domainFilterMode = false → lib.parseIP u.hostname = none → OtherSpellingUnlisted lib p u.hostname) := by
    rw [forall_comm]
    refine forall_congr' fun hnone => ?_
    rw [hnone] at hhost
    have hallowed := (validateDomain_ok hfilter hhost).1
    rw [domainListed_iff hlower]
    unfold SSRFProtection.isDomainAllowed at hallowed
    cases hmode : p.domainFilterMode with
    | true => simpa [hmode] using Or.inl hallowed
    | false => simpa [hmode] using fun _ => hallowed
  rw [← effectivePort_allowed_iff hparse haccepted, ← hdomain]
  simp only [hports]
  constructor
  · exact fun hsafe => ⟨hsafe.port, hsafe.domain⟩
  · rintro ⟨hport, hdomain⟩
    exact ⟨hscheme, hport, fun ip hip => (haddress ip hip).1, fun ip hip => (haddress ip hip).2, hdomain⟩

end

/-- Libraries for which every text is the one URL, and its host has one public address. -/
def oneHost (u : ParsedURL) : SSRFLibraries where
  parseURL _ := .ok u
  parseIP _ := none
  parseCIDR _ := none
  lookupIP _ := .ok [.v4 ⟨0x5db8d822, by decide⟩]

def evilBlacklist : SSRFProtection where
  domainFilterMode := false
  domainList := ["evil.com"]
  ipFilterMode := false
  applyIPFilterForDomain := true

lemma toLower_lowersChars : LowersChars toLower Char.toLower where
  chars s := String.toList_ofList
  lowered c := by
    unfold Char.toLower
    split
    · next h =>
      rw [dif_neg]
      simp only [UInt32.le_iff_toNat_le, ge_iff_le] at h ⊢
      simp [UInt32.toNat_add] at h ⊢
      omega
    · rfl
  dot := rfl

theorem safeURL_public : SafeURL (oneHost ⟨"https", "api.example.com:443".toList, by decide⟩) evilBlacklist
    ⟨"https", "api.example.com:443".toList, by decide⟩ :=
  (safeURL_iff_of_validateURL _ _ toLower_lowersChars evilBlacklist "https://api.example.com:443/" _ rfl rfl rfl
    (by decide +kernel)).mpr ⟨.inr (.inl (by decide +kernel)), fun _ _ => by decide +kernel⟩

/-- The blacklist does not match a host that is written with a trailing dot. -/
theorem safeURL_trailing_dot_counterexample : ∃ lib p urlStr u, p.allowPrivateIp = false ∧
    p.applyIPFilterForDomain = true ∧ lib.parseURL urlStr = .ok u ∧ p.validateURL lib urlStr = .ok () ∧
    ¬SafeURL lib p u := by
  refine ⟨oneHost ⟨"http", "evil.com.".toList, by decide⟩, evilBlacklist, "http://evil.com./",
    ⟨"http", "evil.com.".toList, by decide⟩, rfl, rfl, rfl, by decide +kernel, fun hsafe => ?_⟩
  have hsame : dropDot "evil.com".toList = dropDot "evil.com.".toList := by decide
  have hlisted := (hsafe.domain rfl).mp ⟨"evil.com", hsame, by decide +kernel⟩
  cases hlisted

end LoveApi.Proofs
