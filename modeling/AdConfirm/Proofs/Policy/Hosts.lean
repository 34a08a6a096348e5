import AdConfirm.Pipeline.Gate
import AdConfirm.Proofs.Policy.WellFormed

/-!
Hosts as they are named, and the URLs that they let pass.

A list of hosts is given as an array of texts, or as one text with commas and bars between them. Either way every item is trimmed
and lowered, and what is blank is left out; so white space around a host, the case of its letters, blank items and the choice of
the marks make no difference. What is listed is compared up to ASCII case as a whole: a URL passes the gate if its host is one of
the names, and a longer or a shorter host is never one.

- `listing`: what a policy lists for some hosts.
- `StandsFor`, `Gives`: the items that stand for hosts, and the values that give them.
- `StandsFor.hostNames_eq`, `StandsFor.plain`: such items are listed as the hosts are, and have no marks if the hosts have none.
- `splitIf_marked`: so one text of them is split into just these items.
- `Gives.readHosts_eq`: so hosts are read alike however they are given.
- `IsNamed`, `allows_iff_of_listing`: a host that is one of the names, and the URLs that listed hosts let pass.
- `hosts_pass_as_named`: both together.
-/

namespace AdConfirm.Policy

open AdConfirm.Json (Value)

/-- what a policy lists for these hosts: each trimmed and in lower case, blank ones left out, in the order given -/
def listing (hosts : List String) : List String :=
  (hosts.filter fun host => !Text.isBlankText host.toList).map fun host => String.ofList (Text.lower (Text.trim host.toList))

/-- the items stand for the hosts: one for each in turn, with white space around it and its ASCII letters in any case, and blank
items anywhere between -/
inductive StandsFor : List (List Char) → List String → Prop where
  | nil : StandsFor [] []
  | blank {item : List Char} (h : Text.isBlankText item = true) {items : List (List Char)} {hosts : List String}
      (rest : StandsFor items hosts) : StandsFor (item :: items) hosts
  | host {before name after : List Char} {host : String} (hbefore : Text.isBlankText before = true)
      (hafter : Text.isBlankText after = true) (hname : Text.lower name = Text.lower host.toList) {items : List (List Char)}
      {hosts : List String} (rest : StandsFor items hosts) : StandsFor ((before ++ name ++ after) :: items) (host :: hosts)

/-- one text of several items, with a mark in front of each but the first -/
def marked (first : List Char) (rest : List (Char × List Char)) : List Char := first ++ rest.flatMap fun r => r.1 :: r.2

/-- the value gives the hosts: an array of items that stand for them, or one text of such items with commas and bars between -/
inductive Gives (hosts : List String) : Value → Prop where
  | array {items : List String} (h : StandsFor (items.map String.toList) hosts) : Gives hosts (.array (items.map .text))
  | text {first : List Char} {rest : List (Char × List Char)} (hmarks : ∀ r ∈ rest, r.1 = ',' ∨ r.1 = '|')
      (h : StandsFor (first :: rest.map (·.2)) hosts) : Gives hosts (.text (String.ofList (marked first rest)))

/-! ## Items are listed as the hosts they stand for -/

theorem hostName_eq_empty_iff {s : List Char} : hostName s = "" ↔ Text.isBlankText s = true := by
  rw [Text.isBlankText_iff, hostName, String.ofList_eq_empty_iff, Text.lower, List.map_eq_nil_iff]

/-- Leaving out blank hosts before they are trimmed and lowered is leaving out empty ones after. -/
theorem listing_eq (hosts : List String) : listing hosts = hostNames (hosts.map String.toList) := by
  have hkept : (fun host : String => !Text.isBlankText host.toList) =
      (fun name : String => decide (name ≠ "")) ∘ hostName ∘ String.toList := by
    funext host
    rw [Bool.eq_iff_iff]
    simp [hostName_eq_empty_iff]
  rw [listing, hostNames, List.map_map, List.filter_map, hkept]
  rfl

/-- White space around a host and the case of its letters make no difference. -/
theorem hostName_padded {before name after host : List Char} (hbefore : Text.isBlankText before = true)
    (hafter : Text.isBlankText after = true) (hname : Text.lower name = Text.lower host) :
    hostName (before ++ name ++ after) = hostName host := by
  have htrim : Text.trim (before ++ name ++ after) = Text.trim name :=
    Text.trimIf_padded (List.all_eq_true.1 hbefore) (List.all_eq_true.1 hafter) name
  rw [hostName, hostName, htrim, ← Text.trim_lower, ← Text.trim_lower, hname]

/-- Items are listed as the hosts that they stand for. -/
theorem StandsFor.hostNames_eq {items : List (List Char)} {hosts : List String} (h : StandsFor items hosts) :
    hostNames items = listing hosts := by
  rw [listing_eq]
  induction h with
  | nil => rfl
  | @blank item hblank items hosts _ ih =>
    have hnone : hostName item = "" := hostName_eq_empty_iff.2 hblank
    rw [← ih, hostNames, hostNames, List.map_cons, List.filter_cons_of_neg (by simpa using hnone)]
  | @host before name after host hbefore hafter hname items hosts _ ih =>
    have hsame : hostName (before ++ name ++ after) = hostName host.toList := hostName_padded hbefore hafter hname
    simp only [hostNames, List.map_cons, List.filter_cons, hsame] at ih ⊢
    rw [ih]

/-! ## Items in one text -/

theorem isHostSeparator_iff {c : Char} : isHostSeparator c = true ↔ c = ',' ∨ c = '|' := by simp [isHostSeparator]

/-- Lowering neither makes nor removes marks. -/
theorem any_isHostSeparator_lower (s : List Char) : (Text.lower s).any isHostSeparator = s.any isHostSeparator := by
  have hletter : ∀ c, Text.isLetter c = true → isHostSeparator c = false := by
    intro c hc
    rw [Bool.eq_false_iff]
    intro hmark
    rcases isHostSeparator_iff.1 hmark with rfl | rfl <;> exact absurd hc (by decide)
  rw [Text.lower, List.any_map]
  exact congrArg s.any (funext (Text.apply_lowerChar hletter))

theorem any_isHostSeparator_of_isBlankText {s : List Char} (h : Text.isBlankText s = true) : s.any isHostSeparator = false := by
  rw [List.any_eq_false]
  intro c hc hmark
  have hblank := List.all_eq_true.1 h c hc
  rcases isHostSeparator_iff.1 hmark with rfl | rfl <;> exact absurd hblank (by decide)

/-- Items that stand for hosts without marks have none either. -/
theorem StandsFor.plain {items : List (List Char)} {hosts : List String} (h : StandsFor items hosts)
    (hplain : ∀ host ∈ hosts, host.toList.any isHostSeparator = false) : ∀ item ∈ items, item.any isHostSeparator = false := by
  induction h with
  | nil => simp
  | blank hblank _ ih => exact List.forall_mem_cons.2 ⟨any_isHostSeparator_of_isBlankText hblank, ih hplain⟩
  | @host before name after host hbefore hafter hname items hosts _ ih =>
    obtain ⟨hhost, hhosts⟩ := List.forall_mem_cons.1 hplain
    have hsame : name.any isHostSeparator = host.toList.any isHostSeparator := by
      rw [← any_isHostSeparator_lower, hname, any_isHostSeparator_lower]
    refine List.forall_mem_cons.2 ⟨?_, ih hhosts⟩
    rw [List.any_append, List.any_append, any_isHostSeparator_of_isBlankText hbefore,
      any_isHostSeparator_of_isBlankText hafter, hsame, hhost]
    rfl

/-- One text of items without marks is split into these items. -/
theorem splitIf_marked {first : List Char} {rest : List (Char × List Char)} (hmarks : ∀ r ∈ rest, isHostSeparator r.1 = true)
    (hplain : ∀ item ∈ first :: rest.map (·.2), item.any isHostSeparator = false) :
    Text.splitIf isHostSeparator (marked first rest) = first :: rest.map (·.2) := by
  induction rest generalizing first with
  | nil =>
    have hfirst := hplain first List.mem_cons_self
    rw [marked, List.flatMap_nil, List.append_nil, Text.splitIf_eq_singleton (by simpa using hfirst)]
    rfl
  | cons r rest ih =>
    obtain ⟨hmark, hmarks⟩ := List.forall_mem_cons.1 hmarks
    obtain ⟨hfirst, hrest⟩ := List.forall_mem_cons.1 hplain
    have hsplit : marked first (r :: rest) = first ++ r.1 :: marked r.2 rest := by simp [marked]
    rw [hsplit, Text.splitIf_append (by simpa using hfirst) hmark, ih hmarks hrest]
    rfl

/-- **Hosts are read alike however they are given.** -/
theorem Gives.readHosts_eq {hosts : List String} {v : Value} (h : Gives hosts v)
    (hplain : ∀ host ∈ hosts, host.toList.any isHostSeparator = false) : readHosts v = .ok (listing hosts) := by
  cases h with
  | array h => rw [readHosts_texts, h.hostNames_eq]
  | text hmarks h =>
    have hsplit := splitIf_marked (fun r hr => isHostSeparator_iff.2 (hmarks r hr)) (h.plain hplain)
    rw [readHosts, String.toList_ofList, hsplit, h.hostNames_eq]

/-! ## URLs -/

/-- the host of a URL is the one that is named, up to white space around the name and ASCII case -/
def IsNamed (host name : String) : Prop :=
  Text.trim name.toList ≠ [] ∧ Text.lower host.toList = Text.lower (Text.trim name.toList)

theorem mem_listing_iff {hosts : List String} {allowed : String} :
    allowed ∈ listing hosts ↔
      ∃ name ∈ hosts, Text.trim name.toList ≠ [] ∧ String.ofList (Text.lower (Text.trim name.toList)) = allowed := by
  have hkept : ∀ name : String, (!Text.isBlankText name.toList) = true ↔ Text.trim name.toList ≠ [] := by
    intro name
    rw [Bool.not_eq_true', ← Bool.not_eq_true, Text.isBlankText_iff]
  simp only [listing, List.mem_map, List.mem_filter, hkept, and_assoc]

/-- A host is on the list, up to ASCII case, if it is named. -/
theorem any_listing_iff {hosts : List String} {host : String} :
    ((listing hosts).any fun allowed => Text.sameIgnoringCase allowed host) = true ↔ ∃ name ∈ hosts, IsNamed host name := by
  rw [List.any_eq_true]
  constructor
  · rintro ⟨allowed, hallowed, hsame⟩
    obtain ⟨name, hname, hne, rfl⟩ := mem_listing_iff.1 hallowed
    rw [Text.sameIgnoringCase, beq_iff_eq, String.toList_ofList, Text.lower_lower] at hsame
    exact ⟨name, hname, hne, hsame.symm⟩
  · rintro ⟨name, hname, hne, hsame⟩
    refine ⟨_, mem_listing_iff.2 ⟨name, hname, hne, rfl⟩, ?_⟩
    rw [Text.sameIgnoringCase, beq_iff_eq, String.toList_ofList, Text.lower_lower, hsame]

/-- Where these hosts are listed, a URL is allowed if it is secure and its host is named. -/
theorem allows_iff_of_listing {p : Snapshot} {hosts : List String} (h : p.allowedHosts = listing hosts) (u : Url) :
    p.allows u = true ↔ u.schemeText = "https" ∧ ∃ host, u.hostText? = some host ∧ ∃ name ∈ hosts, IsNamed host name := by
  rw [Snapshot.allows, h, Bool.and_eq_true, beq_iff_eq]
  refine and_congr_right fun _ => ?_
  cases u.hostText? with
  | none => simp
  | some host => simpa using @any_listing_iff hosts host

theorem IsNamed.length_eq {host name : String} (h : IsNamed host name) :
    host.toList.length = (Text.trim name.toList).length := by
  simpa [Text.lower] using congrArg List.length h.2

/-- **Hosts pass as they are named.** Let hosts be named without commas and bars. However they are given, as an array or in one
text with any commas and bars between, with white space around them, in any case and with blank items in between, they are laid
over a policy with the same result, and it lists them trimmed, in lower case and without the blank ones, in the order given. While
a gate goes by a policy that lists them so, a URL is allowed if and only if its scheme is https and its host is one of the trimmed
names that are not empty, up to ASCII case. So a URL without a host is not allowed; nor is one whose host is longer or shorter than
every name, as are the parts of a name and the domains below it. -/
theorem hosts_pass_as_named {hosts : List String} (hplain : ∀ host ∈ hosts, ',' ∉ host.toList ∧ '|' ∉ host.toList) :
    (∀ (p : Snapshot) (source : Source), ∃ q, q.allowedHosts = listing hosts ∧
      ∀ v, Gives hosts v → p.lay ⟨Setting.allowedHosts.path, v, source⟩ = .ok q) ∧
    ∀ (g : Pipeline.Gate) (c : Center), (g.policy c).allowedHosts = listing hosts → ∀ u : Url,
      ((g.policy c).allows u = true ↔
        u.schemeText = "https" ∧ ∃ host, u.hostText? = some host ∧ ∃ name ∈ hosts, IsNamed host name) ∧
      (u.hostText? = none → (g.policy c).allows u = false) ∧
      ∀ host, u.hostText? = some host → (∀ name ∈ hosts, host.toList.length ≠ (Text.trim name.toList).length) →
        (g.policy c).allows u = false := by
  have hmarks : ∀ host ∈ hosts, host.toList.any isHostSeparator = false := by
    intro host hhost
    obtain ⟨hcomma, hbar⟩ := hplain host hhost
    rw [List.any_eq_false]
    intro c hc hmark
    rcases isHostSeparator_iff.1 hmark with rfl | rfl
    · exact hcomma hc
    · exact hbar hc
  refine ⟨fun p source => ?_, fun g c hlists u => ?_⟩
  · refine ⟨p.merge .allowedHosts (listing hosts) source, p.get_merge .allowedHosts (listing hosts) source, fun v hv => ?_⟩
    exact Snapshot.lay_eq_ok_iff.2 ⟨.allowedHosts, listing hosts, ⟨rfl, hv.readHosts_eq hmarks⟩, rfl⟩
  · have hallows := allows_iff_of_listing hlists u
    refine ⟨hallows, fun hnone => ?_, fun host hhost hlength => ?_⟩
    · rw [Bool.eq_false_iff]
      intro hallowed
      obtain ⟨-, host, hhost, -⟩ := hallows.1 hallowed
      rw [hnone] at hhost
      cases hhost
    · rw [Bool.eq_false_iff]
      intro hallowed
      obtain ⟨-, host', hhost', name, hname, hnamed⟩ := hallows.1 hallowed
      obtain rfl := Option.some.inj (hhost.symm.trans hhost')
      exact hlength name hname hnamed.length_eq

def namedHosts : List String := ["search.example", "", "B.Example", "b.example"]

/-- the hosts in an array, with another blank item -/
def hostArray : Value := .array [.text "Search.example\t", .text " ", .text "", .text "b.EXAMPLE", .text "b.example"]

def hostText : Value := .text "|search.example , |b.example|\u00a0B.EXAMPLE"

theorem gives_hostArray : Gives namedHosts hostArray := by
  refine @Gives.array _ ["Search.example\t", " ", "", "b.EXAMPLE", "b.example"] ?_
  refine @StandsFor.host [] "Search.example".toList ['\t'] _ (by decide) (by decide) (by decide +kernel) _ _ ?_
  refine @StandsFor.host [] [] [' '] _ (by decide) (by decide) (by decide +kernel) _ _ ?_
  refine .blank (by decide) ?_
  refine @StandsFor.host [] "b.EXAMPLE".toList [] _ (by decide) (by decide) (by decide +kernel) _ _ ?_
  exact @StandsFor.host [] "b.example".toList [] _ (by decide) (by decide) (by decide +kernel) _ _ .nil

theorem gives_hostText : Gives namedHosts hostText := by
  have htext : "|search.example , |b.example|\u00a0B.EXAMPLE" =
      String.ofList (marked [] [('|', "search.example ".toList), (',', [' ']), ('|', "b.example".toList),
        ('|', "\u00a0B.EXAMPLE".toList)]) := by decide +kernel
  rw [hostText, htext]
  refine .text (by simp) ?_
  refine .blank (by decide) ?_
  refine @StandsFor.host [] "search.example".toList [' '] _ (by decide) (by decide) (by decide +kernel) _ _ ?_
  refine @StandsFor.host [] [] [' '] _ (by decide) (by decide) (by decide +kernel) _ _ ?_
  refine @StandsFor.host [] "b.example".toList [] _ (by decide) (by decide) (by decide +kernel) _ _ ?_
  exact @StandsFor.host ['\u00a0'] "B.EXAMPLE".toList [] _ (by decide) (by decide) (by decide +kernel) _ _ .nil

/-- a URL under this scheme, with this host if there is one -/
def urlOf (scheme : String) (host : Option String) : Url :=
  ⟨scheme.toList, [], [], host.map fun h => .domain h.toList, none, .segments [[]], none, none⟩

theorem hosts_pass_as_named_marked :
    (∀ host ∈ namedHosts, ',' ∉ host.toList ∧ '|' ∉ host.toList) ∧ Gives namedHosts hostArray ∧ Gives namedHosts hostText ∧
      ∃ q, Snapshot.start.lay ⟨"hosts.allowed", hostArray, .file⟩ = .ok q ∧
        Snapshot.start.lay ⟨"hosts.allowed", hostText, .file⟩ = .ok q ∧
        q.allowedHosts = ["search.example", "b.example", "b.example"] ∧
        let allowed := fun u => (Pipeline.Gate.live.policy (Center.ofSnapshot q)).allows u
        allowed (urlOf "https" (some "b.example")) = true ∧ allowed (urlOf "http" (some "b.example")) = false ∧
          allowed (urlOf "https" (some "a.b.example")) = false ∧ allowed (urlOf "https" none) = false := by
  have hplain : ∀ host ∈ namedHosts, ',' ∉ host.toList ∧ '|' ∉ host.toList := by decide +kernel
  obtain ⟨hgiven, hpass⟩ := hosts_pass_as_named hplain
  obtain ⟨q, hlists, hq⟩ := hgiven .start .file
  refine ⟨hplain, gives_hostArray, gives_hostText, q, hq _ gives_hostArray, hq _ gives_hostText, ?_, ?_⟩
  · rw [hlists]
    decide +kernel
  · have hgate := hpass .live (.ofSnapshot q) hlists
    refine ⟨(hgate _).1.2 ⟨rfl, "b.example", by decide +kernel, "B.Example", by decide, by decide +kernel, by decide +kernel⟩,
      ?_, (hgate _).2.2 "a.b.example" (by decide +kernel) (by decide +kernel), (hgate _).2.1 rfl⟩
    rw [Bool.eq_false_iff]
    exact fun hallowed => absurd ((hgate _).1.1 hallowed).1 (by decide +kernel)

end AdConfirm.Policy
