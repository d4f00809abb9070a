/-
Where the tools on commits reach.

The hash that the model gives is put behind the path of the commits of a repository as it is.  It
names one commit there exactly if it has no slash, no question mark and no mark of a fragment; other
hashes may lead to any other place of the host.

Main statements:
* `Release.exists_halves` — the halves of a repository's name;
* `GitHubClient.commits`, `GitHubClient.address_eq` — the path of the commits of a repository;
* `GitHubClient.target_of_address` — the target of an address;
* `GitHubClient.target_names_commit_iff` — when the target is that of one commit;
* `CommitTools.requests_execute` — the requests of a call;
* `CommitTools.reach` — where a call of a tool on commits reaches.
-/
import ReleaseNotes.Proofs.GitHub.Commits
import ReleaseNotes.Proofs.Validation.Rereading
import ReleaseNotes.Proofs.Web.Paths

namespace ReleaseNotes

variable {ω : Type}

/-! ### Repositories -/

namespace Release

theorem slash_not_mem_of_isNamePart {cs : List Char} (h : isNamePart cs = true) : '/' ∉ cs := by
  intro hslash
  simp only [isNamePart, Bool.and_eq_true, List.all_eq_true] at h
  exact absurd (h.2 _ hslash) (by decide)

/-- The name of a repository has two halves, with the one slash between them. -/
theorem exists_halves {s : String} (h : isRepository s = true) :
    ∃ owner name, s.toList = owner ++ '/' :: name ∧ s.toList.splitOn '/' = [owner, name] ∧
      '/' ∉ owner ∧ '/' ∉ name := by
  unfold isRepository at h
  split at h
  · next owner name hsplit =>
    rw [Bool.and_eq_true] at h
    have hjoin : ['/'].intercalate (s.toList.splitOn '/') = s.toList := List.intercalate_splitOn ..
    rw [hsplit] at hjoin
    refine ⟨owner, name, ?_, hsplit, slash_not_mem_of_isNamePart h.1,
      slash_not_mem_of_isNamePart h.2⟩
    rw [← hjoin]
    simp
  · cases h

end Release

/-! ### Addresses -/

/-- One segment of an address: a name without the marks that begin a query or a fragment. -/
structure Target.IsSegment (s : List Char) : Prop extends Target.IsName s where
  unqueried : '?' ∉ s
  whole : '#' ∉ s

namespace GitHubClient

open Target

/-- The path of the commits of a repository. -/
def commits (repository : String) : String := "/repos/" ++ repository ++ "/commits"

/-- The same as it is sent. -/
def commitsSent (repository : String) : List Char :=
  percentEncode unsafeInPath (commits repository).toList

theorem toList_commits (repository : String) :
    (commits repository).toList = "/repos/".toList ++ repository.toList ++ "/commits".toList := by
  rw [commits, String.toList_append, String.toList_append]

theorem address_eq (repository sha : String) :
    address repository sha = Text.ofChars ((commits repository).toList ++ '/' :: sha.toList) := by
  simp [address, toList_commits, Text.ofString, Text.ofChars]

/-- The hash is one segment exactly if the address as it is built goes on with one segment. -/
theorem exists_address_iff {repository sha : String} :
    (∃ s, IsSegment s ∧
      address repository sha = Text.ofChars ((commits repository).toList ++ '/' :: s)) ↔
      IsSegment sha.toList := by
  have hinj : Function.Injective Text.ofChars :=
    List.map_injective_iff.2 fun _ _ => TextUnit.char.inj
  constructor
  · rintro ⟨s, hs, heq⟩
    rw [address_eq] at heq
    obtain ⟨-, hsha⟩ := List.cons.inj (List.append_cancel_left (hinj heq))
    rw [hsha]
    exact hs
  · intro h
    exact ⟨sha.toList, h, address_eq repository sha⟩

theorem plain_commits {repository : String} (h : Release.isRepository repository = true) :
    ∀ c ∈ (commits repository).toList ++ ['/'], IsPlain c := by
  have hfixed : ∀ c ∈ "/repos/".toList ++ "/commits".toList ++ ['/'], IsPlain c := by
    have hall : ("/repos/".toList ++ "/commits".toList ++ ['/']).all
        (fun c => c == '/' || c.isAlphanum) = true := by decide
    intro c hc
    rcases Bool.or_eq_true_iff.1 (List.all_eq_true.1 hall c hc) with hslash | halnum
    · rw [beq_iff_eq.1 hslash]
      exact ⟨by decide, by decide, by decide, by decide⟩
    · exact isPlain_of_isAlphanum halnum
  intro c hc
  rw [toList_commits] at hc
  simp only [List.mem_append] at hc hfixed
  rcases hc with ((hc | hc) | hc) | hc
  · exact hfixed c (.inl (.inl hc))
  · exact Release.plain_of_isRepository h c hc
  · exact hfixed c (.inl (.inr hc))
  · exact hfixed c (.inr hc)

/-- The fixed parts of a path are sent as they are. -/
theorem percentEncode_fixed : percentEncode unsafeInPath "/repos/".toList = "/repos/".toList ∧
    percentEncode unsafeInPath ['/'] = ['/'] ∧
    percentEncode unsafeInPath "/commits".toList = "/commits".toList := by decide +kernel

/-- The steps to the commits of a repository lead somewhere exactly if the halves of its name do. -/
theorem leads_commits_iff {repository : String} (h : Release.isRepository repository = true) :
    (∀ s ∈ (commitsSent repository).splitOn '/', ¬ IsDots s) ↔
      ∀ half ∈ repository.toList.splitOn '/', ¬ IsDots half := by
  obtain ⟨hrepos, hslash, hcommits⟩ := percentEncode_fixed
  obtain ⟨owner, name, hrepository, hhalves, howner, hname⟩ := Release.exists_halves h
  have hsent : commitsSent repository = "/repos".toList ++ '/' ::
      (percentEncode unsafeInPath owner ++ '/' ::
        (percentEncode unsafeInPath name ++ '/' :: "commits".toList)) := by
    rw [commitsSent, toList_commits, hrepository, percentEncode_append, percentEncode_append,
      percentEncode_append, percentEncode_cons _ '/', hrepos, hslash, hcommits]
    simp
  have hsteps : (commitsSent repository).splitOn '/' = [[], "repos".toList,
      percentEncode unsafeInPath owner, percentEncode unsafeInPath name, "commits".toList] := by
    rw [hsent, List.splitOn_append_cons_self, List.splitOn_append_cons_self,
      List.splitOn_append_cons_self, List.splitOn_eq_singleton (slash_not_mem_percentEncode howner),
      List.splitOn_eq_singleton (slash_not_mem_percentEncode hname)]
    rfl
  have hfixed : ¬ IsDots [] ∧ ¬ IsDots "repos".toList ∧ ¬ IsDots "commits".toList := by
    refine ⟨?_, ?_, ?_⟩ <;> simp [IsDots]
  rw [hsteps, hhalves]
  simp only [List.forall_mem_cons, isDots_percentEncode_iff, hfixed, not_false_eq_true, true_and,
    List.not_mem_nil, false_implies, implies_true, and_true]

/-- The target of an address: behind the path of the commits stands the path of the hash, and it has
a query if the hash has one. -/
theorem target_of_address {repository sha : String}
    (hrepository : Release.isRepository repository = true) {target : Target}
    (h : Target.of (address repository sha) = .ok target) :
    target.path = String.ofList (resolve (commitsSent repository ++
        '/' :: percentEncode unsafeInPath (split sha.toList).1)) ∧
      target.query = (split sha.toList).2.map fun q =>
        String.ofList (percentEncode unsafeInQuery q) := by
  obtain ⟨hrepos, hslash, -⟩ := percentEncode_fixed
  have hsplit : split ((commits repository).toList ++ '/' :: sha.toList) =
      ((commits repository).toList ++ '/' :: (split sha.toList).1, (split sha.toList).2) := by
    have happend := split_append (plain_commits hrepository) sha.toList
    simpa using happend
  have hsent : percentEncode unsafeInPath
      ((commits repository).toList ++ '/' :: (split sha.toList).1) =
        commitsSent repository ++ '/' :: percentEncode unsafeInPath (split sha.toList).1 := by
    rw [percentEncode_append, percentEncode_cons _ '/', hslash]
    rfl
  -- the path begins with one slash, which is what is made of all slashes at the front
  obtain ⟨rest, hrest⟩ : ∃ rest, commitsSent repository = '/' :: 'r' :: rest := by
    rw [commitsSent, toList_commits, List.append_assoc, percentEncode_append, hrepos]
    exact ⟨_, rfl⟩
  obtain ⟨hpath, hquery⟩ := of_eq_ok h
  rw [address_eq, filterMap_char?, hsplit] at hpath hquery
  refine ⟨?_, hquery⟩
  rw [hpath]
  dsimp only
  rw [hsent, hrest]
  rfl

/-- The target is that of one commit of the repository exactly if the halves of the repository's
name lead somewhere, the hash has no query, and its path, walked from the commits of the repository,
leads one step on. -/
theorem target_names_commit_iff {repository sha : String}
    (hrepository : Release.isRepository repository = true) {target : Target}
    (h : Target.of (address repository sha) = .ok target) :
    (∃ s, IsName s ∧ target = ⟨String.ofList (commitsSent repository ++ '/' :: s), none⟩) ↔
      (∀ half ∈ repository.toList.splitOn '/', ¬ IsDots half) ∧ (split sha.toList).2 = none ∧
        ∃ s ≠ [], walk ((commitsSent repository).splitOn '/').reverse
          (percentEncode unsafeInPath (split sha.toList).1) =
            s :: ((commitsSent repository).splitOn '/').reverse := by
  obtain ⟨hpath, hquery⟩ := target_of_address hrepository h
  rw [← leads_commits_iff hrepository]
  constructor
  · rintro ⟨s, hs, rfl⟩
    obtain ⟨hleads, hwalk⟩ := (resolve_eq_append_iff hs).1 (String.ofList_injective hpath).symm
    exact ⟨hleads, Option.map_eq_none_iff.1 hquery.symm, s, hs.nonempty, hwalk⟩
  · rintro ⟨hleads, hunqueried, s, hne, hwalk⟩
    have hs : IsName s := by
      have hmem : s ∈ walk [] (commitsSent repository ++
          '/' :: percentEncode unsafeInPath (split sha.toList).1) := by
        rw [walk_append, walk_of_leads hleads]
        exact hwalk ▸ List.mem_cons_self
      exact ⟨hne, (mem_walk hmem).1, (mem_walk hmem).2⟩
    rw [(resolve_eq_append_iff hs).2 ⟨hleads, hwalk⟩] at hpath
    rw [hunqueried] at hquery
    obtain ⟨path, query⟩ := target
    dsimp only at hpath hquery
    exact ⟨s, hs, by rw [hpath, hquery]; rfl⟩

/-- A hash that is one segment is the name of the commit that is asked for. -/
theorem target_of_isSegment {repository sha : String}
    (hrepository : Release.isRepository repository = true)
    (hhalves : ∀ half ∈ repository.toList.splitOn '/', ¬ IsDots half)
    (hsha : IsSegment sha.toList) {target : Target}
    (h : Target.of (address repository sha) = .ok target) :
    target = ⟨String.ofList (commitsSent repository ++
      '/' :: percentEncode unsafeInPath sha.toList), none⟩ := by
  obtain ⟨hpath, hquery⟩ := target_of_address hrepository h
  have hname : IsName (percentEncode unsafeInPath sha.toList) := hsha.toIsName.percentEncode
  have hleads := (leads_commits_iff hrepository).2 hhalves
  rw [split_of_not_mem hsha.unqueried hsha.whole] at hpath hquery
  rw [(resolve_eq_append_iff hname).2 ⟨hleads, hname.walk_eq _⟩] at hpath
  obtain ⟨path, query⟩ := target
  dsimp only at hpath hquery
  rw [hpath, hquery]
  rfl

end GitHubClient

/-! ### Calls -/

theorem Registry.requests_runTool (t : Tool ω) (fields : Json.Fields) (w : ω) :
    ((runTool t fields).run w).requests = ((t.run fields).run w).requests := by
  rw [runTool_run]
  rcases (t.run fields).run w with ⟨result, w', events⟩
  cases result with
  | ok v => rfl
  | error f =>
    by_cases hf : passesOn f = true
    · simp [hf, Outcome.requests, List.filterMap_cons, Event.request?]
    · simp [hf, Outcome.requests, List.filterMap_cons, Event.request?]

/-- A commit is fetched by one request for the target of its address, or by none. -/
theorem GitHubClient.requests_source (c : GitHubClient) (wire : Wire ω) (repository sha : Text)
    (w : ω) {r : WebRequest}
    (hr : r ∈ ((c.source wire.transport repository sha).run w).requests) :
    ∃ target, Target.of (address repository sha) = .ok target ∧ r = c.request target := by
  cases hwithheld : c.withheld? repository sha with
  | some f =>
    rw [source_run_of_withheld hwithheld] at hr
    cases hr
  | none =>
    unfold withheld? at hwithheld
    cases hobstacle : c.obstacle? with
    | some fault =>
      rw [hobstacle] at hwithheld
      cases hwithheld
    | none =>
      cases htarget : Target.of (address repository sha) with
      | error p =>
        rw [hobstacle, htarget] at hwithheld
        cases hwithheld
      | ok target =>
        rw [source_run hobstacle htarget] at hr
        exact ⟨target, rfl, List.mem_singleton.1 hr⟩

namespace CommitTools

/-- Arguments that are accepted tell a hash of four characters at least. -/
theorem exists_sha_of_check {given : Json} {fields : Json.Fields}
    (h : signature.check given = .ok fields) :
    ∃ sha : String, 4 ≤ sha.length ∧ hash fields = sha := by
  obtain ⟨told, rfl, -⟩ := Check.object_eq_ok_iff.1 h
  obtain ⟨⟨name, v⟩, rest, ⟨hname, htakes⟩, -, rfl⟩ :=
    List.forall₂_cons_left_iff.1 ((Signature.check_eq_ok_iff _).1 h)
  obtain rfl : name = Text.ofString "sha" := hname
  unfold Argument.Takes at htakes
  split at htakes
  · obtain ⟨sha, hsha, rfl⟩ := Validated.map_eq_ok_iff.1 htakes
    exact ⟨sha, (Check.stringOf_eq_ok_iff.1 hsha).2, rfl⟩
  · -- the hash has no default
    cases htakes

/-- Every request of a call is one for the address of the hash that its arguments tell. -/
theorem requests_execute {c : GitHubClient} {wire : Wire ω} {repository : Text} {limit : Int}
    {name : Text} {given : Json} {fields : Json.Fields}
    (haccepted : signature.check given = .ok fields) {w : ω} {r : WebRequest}
    (hr : r ∈ (((registry (c.source wire.transport) repository limit).execute name given).run
      w).requests) :
    ∃ target, Target.of (GitHubClient.address repository (hash fields)) = .ok target ∧
      r = c.request target := by
  unfold Registry.execute at hr
  cases hfind : (registry (c.source wire.transport) repository limit).find? name with
  | none =>
    rw [hfind] at hr
    cases hr
  | some tool =>
    -- whichever tool it is, it fetches the commit
    obtain ⟨hsignature, g, hrun⟩ : tool.signature = some signature ∧ ∃ g : CommitDiff → ToolValue,
        tool.run fields = g <$> c.source wire.transport repository (hash fields) := by
      rcases List.mem_pair.1 (List.mem_of_find?_eq_some hfind) with rfl | rfl
      · exact ⟨rfl, _, rfl⟩
      · exact ⟨rfl, _, rfl⟩
    have harguments : Registry.arguments tool given = .ok fields := by
      unfold Registry.arguments
      rw [hsignature]
      dsimp only
      rw [haccepted]
    rw [hfind] at hr
    dsimp only at hr
    rw [harguments] at hr
    have hr : r ∈ ((Registry.runTool tool fields).run w).requests := hr
    rw [Registry.requests_runTool, hrun, Act.map_run] at hr
    exact c.requests_source wire repository (hash fields) w hr

open Target GitHubClient

/-- Where a call of a tool on commits reaches, for a repository whose name is one and for arguments
that are accepted.  The address that is built for the hash goes on behind the path of the commits
with one segment exactly if the hash has no slash, no question mark and no mark of a fragment.  The
target that is sent is that of one commit of the repository exactly if no half of the repository's
name is made of one or two dots alone, the hash has no query, and its path, walked from the commits
of the repository, leads one step on.  So it is with every hash without these marks, whose name
stands behind that path.  All requests of the call are for this target. -/
theorem reach {repository : String} (hrepository : Release.isRepository repository = true)
    {given : Json} {fields : Json.Fields} (haccepted : signature.check given = .ok fields) :
    ∃ sha : String, hash fields = Text.ofString sha ∧
      ((∃ s, IsSegment s ∧
        address repository sha = Text.ofChars ((commits repository).toList ++ '/' :: s)) ↔
        '/' ∉ sha.toList ∧ '?' ∉ sha.toList ∧ '#' ∉ sha.toList) ∧
      (∀ target, Target.of (address repository sha) = .ok target →
        ((∃ s, IsName s ∧ target = ⟨String.ofList (commitsSent repository ++ '/' :: s), none⟩) ↔
          (∀ half ∈ repository.toList.splitOn '/', ¬ IsDots half) ∧ (split sha.toList).2 = none ∧
            ∃ s ≠ [], walk ((commitsSent repository).splitOn '/').reverse
              (percentEncode unsafeInPath (split sha.toList).1) =
                s :: ((commitsSent repository).splitOn '/').reverse) ∧
        ('/' ∉ sha.toList → '?' ∉ sha.toList → '#' ∉ sha.toList →
          (∀ half ∈ repository.toList.splitOn '/', ¬ IsDots half) →
          target = ⟨String.ofList (commitsSent repository ++
            '/' :: percentEncode unsafeInPath sha.toList), none⟩)) ∧
      ∀ (c : GitHubClient) (wire : Wire ω) (limit : Int) (name : Text) (w : ω),
        ∀ r ∈ (((registry (c.source wire.transport) repository limit).execute name given).run
          w).requests,
          ∃ target, Target.of (address repository sha) = .ok target ∧ r = c.request target := by
  obtain ⟨sha, hlong, hsha⟩ := exists_sha_of_check haccepted
  -- a hash of four characters is not empty, and it is no step that leads nowhere
  have hsegment : '/' ∉ sha.toList → '?' ∉ sha.toList → '#' ∉ sha.toList →
      IsSegment sha.toList := by
    intro hslash hquestion hhash
    rw [← String.length_toList] at hlong
    refine ⟨⟨?_, hslash, ?_⟩, hquestion, hhash⟩
    · intro hnil
      rw [hnil] at hlong
      exact absurd hlong (by decide)
    · rintro (hdots | hdots)
      · rw [hdots] at hlong
        exact absurd hlong (by decide)
      · rw [hdots] at hlong
        exact absurd hlong (by decide)
  refine ⟨sha, hsha, ?_, ?_, ?_⟩
  · rw [exists_address_iff]
    constructor
    · intro h
      exact ⟨h.undivided, h.unqueried, h.whole⟩
    · rintro ⟨hslash, hquestion, hhash⟩
      exact hsegment hslash hquestion hhash
  · intro target htarget
    refine ⟨target_names_commit_iff hrepository htarget, ?_⟩
    intro hslash hquestion hhash hhalves
    exact target_of_isSegment hrepository hhalves (hsegment hslash hquestion hhash) htarget
  · intro c wire limit name w r hr
    rw [← hsha]
    exact requests_execute haccepted hr

/-- A wire that no answer comes back over. -/
def cutWire : Wire Unit := fun _ w => (.failure "ConnectError" [], w)

/-- The arguments of a call that tell a hash. -/
def telling (sha : String) : Json := .obj [(Text.ofString "sha", .text sha)]

theorem reach_commit :
    Release.isRepository "octo/tool" = true ∧
    signature.check (telling "a1b2c3d") = .ok [(Text.ofString "sha", .text "a1b2c3d")] ∧
    ∃ r, (((registry ((GitHubClient.new "" "" standardTimeout).source cutWire.transport) "octo/tool"
        4000).execute "get_commit_diff" (telling "a1b2c3d")).run ()).requests = [r] ∧
      r.target = "/repos/octo/tool/commits/a1b2c3d" := by
  have hrepository : Release.isRepository "octo/tool" = true := by decide +kernel
  have haccepted : signature.check (telling "a1b2c3d") =
      .ok [(Text.ofString "sha", .text "a1b2c3d")] := rfl
  obtain ⟨sha, hsha, -, hnamed, hsent⟩ := reach (ω := Unit) hrepository haccepted
  obtain rfl : "a1b2c3d" = sha := Text.ofString_inj.1 hsha
  refine ⟨hrepository, haccepted, _, rfl, ?_⟩
  obtain ⟨target, htarget, hr⟩ := hsent (GitHubClient.new "" "" standardTimeout) cutWire 4000
    "get_commit_diff" () _ (List.mem_singleton_self _)
  have hhalves : ∀ half ∈ "octo/tool".toList.splitOn '/', ¬ IsDots half := by
    have hsplit : "octo/tool".toList.splitOn '/' = ["octo".toList, "tool".toList] := by decide
    rw [hsplit]
    simp [IsDots]
  have hname := (hnamed target htarget).2 (by decide) (by decide) (by decide) hhalves
  rw [hr, hname]
  decide +kernel

/-- A hash of steps to the upper level leads to the data of the user who sends the request. -/
theorem reach_user :
    Release.isRepository "octo/tool" = true ∧
    signature.check (telling "../../../../user") =
      .ok [(Text.ofString "sha", .text "../../../../user")] ∧
    Target.of (address "octo/tool" "../../../../user") = .ok ⟨"/user", none⟩ ∧
    (¬ ∃ s, IsSegment s ∧ address "octo/tool" "../../../../user" =
      Text.ofChars ((commits "octo/tool").toList ++ '/' :: s)) ∧
    ¬ ∃ s, IsName s ∧
      (⟨"/user", none⟩ : Target) = ⟨String.ofList (commitsSent "octo/tool" ++ '/' :: s), none⟩ := by
  have hlength : 5 < (commitsSent "octo/tool").length := by decide +kernel
  refine ⟨by decide +kernel, rfl, by decide +kernel, ?_, ?_⟩
  · rw [exists_address_iff]
    intro h
    exact h.undivided (by decide)
  · rintro ⟨s, -, heq⟩
    have hpath : "/user" = String.ofList (commitsSent "octo/tool" ++ '/' :: s) :=
      congrArg Target.path heq
    have hchars : "/user".toList = commitsSent "octo/tool" ++ '/' :: s := by
      rw [hpath, String.toList_ofList]
    have hlong := congrArg List.length hchars
    have huser : "/user".toList.length = 5 := by decide
    rw [List.length_append] at hlong
    omega

end CommitTools
end ReleaseNotes
