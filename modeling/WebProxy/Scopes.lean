import WebProxy.Routes

/-! Token scopes: `rewrite_scope` and `merged_upstream_scope`, which turn the scopes a Docker client
sends to `/token` into the one scope the gateway asks its upstream for. -/

namespace WebProxy.Scopes

def split (mark : Char) (text : String) : List String :=
  (text.toList.splitOn mark).map String.ofList

def badSegment (segment : String) : Bool := segment = "" || segment = "." || segment = ".."

def refused (repository actions : String) : Bool :=
  repository = "" || repository.toList.head? = some '/' || repository.toList.getLast? = some '/' ||
    (split '/' repository).any badSegment || !(split ',' actions).all (· = "pull")

/-- The scope without a registry's prefix, when it has it and something follows. -/
def stripRegistry (registry : Registry) (repository actions : String) :
    Option (Except Nat (Registry × String)) :=
  (Text.stripPrefix repository registry.routePrefix).map (fun rest =>
    if rest = "" then .error 400 else .ok (registry, "repository:" ++ rest ++ ":" ++ actions))

def rewriteScope (scope : String) : Except Nat (Registry × String) :=
  match Split.splitn 3 ':' scope.toList with
  | [kind, repository, actions] =>
      if kind ≠ "repository".toList then .error 400
      else if refused (String.ofList repository) (String.ofList actions) then .error 400
      else
        match stripRegistry .dockerHub (String.ofList repository) (String.ofList actions) with
        | some result => result
        | none =>
            match stripRegistry .ghcr (String.ofList repository) (String.ofList actions) with
            | some result => result
            | none => .ok (.dockerHub, scope)
  | _ => .error 400

/-- The loop of `merged_upstream_scope`: each scope sets the registry, and its rewriting is
added unless it is there. -/
def mergeLoop : List String → Registry → List String → Except Nat (Registry × List String)
  | [], registry, merged => .ok (registry, merged)
  | scope :: rest, _, merged =>
      match rewriteScope scope with
      | .error status => .error status
      | .ok (scopeRegistry, upstreamScope) =>
          mergeLoop rest scopeRegistry
            (if upstreamScope ≠ "" ∧ upstreamScope ∉ merged then merged ++ [upstreamScope]
              else merged)

def mergedUpstreamScope (rawScopes : List String) : Except Nat (Registry × String) :=
  match mergeLoop rawScopes .dockerHub [] with
  | .error status => .error status
  | .ok (registry, merged) => .ok (registry, " ".intercalate merged)

def PullScope (scope : String) : Prop :=
  ∃ repository actions : List Char,
    scope.toList = "repository".toList ++ ':' :: (repository ++ ':' :: actions) ∧
      ':' ∉ repository ∧ ∀ action ∈ actions.splitOn ',', action = "pull".toList

theorem refused_actions {repository actions : String} (passed : refused repository actions = false) :
    ∀ action ∈ actions.toList.splitOn ',', action = "pull".toList := by
  simp only [refused, Bool.or_eq_false_iff, Bool.not_eq_false', List.all_eq_true] at passed
  intro action member
  have same := passed.2 (String.ofList action) (List.mem_map.mpr ⟨action, member, rfl⟩)
  rw [decide_eq_true_eq] at same
  rw [← same, String.toList_ofList]

theorem stripRegistry_pullScope {registry named : Registry} {repository actions upstream : String}
    (marks : ':' ∉ repository.toList)
    (pulls : ∀ action ∈ actions.toList.splitOn ',', action = "pull".toList)
    (stripped : stripRegistry registry repository actions = some (.ok (named, upstream))) :
    PullScope upstream := by
  obtain ⟨rest, found, result⟩ := Option.map_eq_some_iff.mp stripped
  split at result
  · cases result
  · cases result
    refine ⟨rest.toList, actions.toList, by simp, ?_, pulls⟩
    intro colon
    apply marks
    rw [Text.stripPrefix_some found]
    exact List.mem_append_right _ colon

theorem rewriteScope_pullScope {scope upstream : String} {registry : Registry}
    (accepted : rewriteScope scope = .ok (registry, upstream)) : PullScope upstream := by
  unfold rewriteScope at accepted
  split at accepted
  · rename_i kind repository actions pieces
    obtain ⟨whole, _, marks⟩ := Split.splitn_three_iff.mp pieces
    split at accepted
    · cases accepted
    · rename_i named
      rw [ne_eq, not_not] at named
      split at accepted
      · cases accepted
      · rename_i passed
        have pulls := refused_actions (by simpa using passed)
        have colons : ':' ∉ (String.ofList repository).toList := by simpa using marks
        split at accepted
        · rename_i result stripped
          subst accepted
          exact stripRegistry_pullScope colons pulls stripped
        · split at accepted
          · rename_i result stripped
            subst accepted
            exact stripRegistry_pullScope colons pulls stripped
          · cases accepted
            rw [named] at whole
            exact ⟨repository, actions, whole, marks, by simpa using pulls⟩
  · cases accepted

theorem pulls_plain {actions : List Char}
    (pulls : ∀ action ∈ actions.splitOn ',', action = "pull".toList) :
    ':' ∉ actions ∧ ' ' ∉ actions := by
  have letters : ∀ char ∈ actions, char ∈ ",pull".toList := by
    intro char member
    rcases (Split.mem_pieces member : char = ',' ∨ _) with rfl | ⟨action, among, inside⟩
    · decide
    · rw [pulls action among] at inside
      exact List.mem_cons_of_mem _ inside
  exact ⟨fun colon => absurd (letters _ colon) (by decide),
    fun space => absurd (letters _ space) (by decide)⟩

theorem PullScope.token_whole {scope : String} (pull : PullScope scope) {token : List Char}
    (member : token ∈ scope.toList.splitOn ' ') (colons : 2 ≤ token.count ':') :
    token = scope.toList := by
  obtain ⟨repository, actions, whole, marks, pulls⟩ := pull
  obtain ⟨noColon, noSpace⟩ := pulls_plain pulls
  by_cases spaced : ' ' ∈ repository
  · -- a space inside the repository leaves one colon on either side of it
    obtain ⟨front, back, cut⟩ := List.append_of_mem spaced
    subst cut
    rw [List.mem_append, List.mem_cons, not_or, not_or] at marks
    have shape : scope.toList = ("repository".toList ++ ':' :: front) ++
        ' ' :: (back ++ ':' :: actions) := by
      rw [whole]
      simp
    rw [shape, List.splitOn_append_cons_self, List.mem_append] at member
    exfalso
    rcases member with left | right
    · have few := (Split.mem_splitOn left).2.count_le ':'
      rw [List.count_append, List.count_cons_self, List.count_eq_zero.mpr marks.1] at few
      have colonless : "repository".toList.count ':' = 0 := by decide
      omega
    · have few := (Split.mem_splitOn right).2.count_le ':'
      rw [List.count_append, List.count_cons_self, List.count_eq_zero.mpr marks.2.2,
        List.count_eq_zero.mpr noColon] at few
      omega
  · have plain : ' ' ∉ scope.toList := by
      rw [whole]
      simp [spaced, noSpace]
    rw [List.splitOn_eq_singleton plain] at member
    exact List.mem_singleton.mp member

def Rejected (scope : String) : Prop := ∃ status, rewriteScope scope = .error status

/-- The list is, without duplicates, what the scopes are rewritten to. -/
structure Union (rawScopes scopes : List String) : Prop where
  distinct : scopes.Nodup
  members : ∀ upstream, upstream ∈ scopes ↔
    ∃ scope ∈ rawScopes, ∃ registry, rewriteScope scope = .ok (registry, upstream)

theorem rewriteScope_ne_empty {scope upstream : String} {registry : Registry}
    (accepted : rewriteScope scope = .ok (registry, upstream)) : upstream ≠ "" := by
  obtain ⟨repository, actions, whole, _⟩ := rewriteScope_pullScope accepted
  intro empty
  simp [empty] at whole

theorem mergeLoop_nodup {rawScopes merged result : List String} {registry named : Registry}
    (distinct : merged.Nodup) (looped : mergeLoop rawScopes registry merged = .ok (named, result)) :
    result.Nodup := by
  induction rawScopes generalizing registry merged with
  | nil =>
      cases looped
      exact distinct
  | cons scope rest ih =>
      simp only [mergeLoop] at looped
      split at looped
      · cases looped
      · rename_i found upstream _
        refine ih ?_ looped
        split
        · rename_i fresh
          refine List.nodup_append.mpr ⟨distinct, by simp, ?_⟩
          intro first member second same equal
          rw [List.mem_singleton.mp same] at equal
          exact fresh.2 (equal ▸ member)
        · exact distinct

theorem mergeLoop_members {rawScopes merged result : List String} {registry named : Registry}
    (looped : mergeLoop rawScopes registry merged = .ok (named, result)) (upstream : String) :
    upstream ∈ result ↔ upstream ∈ merged ∨
      ∃ scope ∈ rawScopes, ∃ found, rewriteScope scope = .ok (found, upstream) := by
  induction rawScopes generalizing registry merged with
  | nil =>
      cases looped
      simp
  | cons scope rest ih =>
      simp only [mergeLoop] at looped
      split at looped
      · cases looped
      · rename_i found rewritten accepted
        have named := rewriteScope_ne_empty accepted
        have kept : upstream ∈ (if rewritten ≠ "" ∧ rewritten ∉ merged then merged ++ [rewritten]
            else merged) ↔ upstream ∈ merged ∨ upstream = rewritten := by
          by_cases there : rewritten ∈ merged
          · rw [if_neg (by simp [there])]
            constructor
            · exact Or.inl
            · intro either
              rcases either with held | rfl
              · exact held
              · exact there
          · simp [named, there]
        rw [ih looped, kept, or_assoc]
        have head : (∃ registry, rewriteScope scope = .ok (registry, upstream)) ↔
            upstream = rewritten := by
          rw [accepted]
          simp [eq_comm]
        rw [List.exists_mem_cons_iff, head]

theorem mergeLoop_registry {rawScopes merged result : List String} {registry named : Registry}
    (some_scope : rawScopes ≠ [])
    (looped : mergeLoop rawScopes registry merged = .ok (named, result)) :
    ∃ scope ∈ rawScopes, ∃ upstream, rewriteScope scope = .ok (named, upstream) := by
  induction rawScopes generalizing registry merged with
  | nil => exact absurd rfl some_scope
  | cons scope rest ih =>
      simp only [mergeLoop] at looped
      split at looped
      · cases looped
      · rename_i found rewritten accepted
        cases rest with
        | nil =>
            cases looped
            exact ⟨scope, List.mem_cons_self, rewritten, accepted⟩
        | cons next more =>
            obtain ⟨last, among, upstream, rewrites⟩ := ih (by simp) looped
            exact ⟨last, List.mem_cons_of_mem _ among, upstream, rewrites⟩

theorem rewriteScope_status {scope : String} {status : Nat}
    (rejected : rewriteScope scope = .error status) : status = 400 := by
  have stripped : ∀ registry repository actions,
      stripRegistry registry repository actions = some (.error status) → status = 400 := by
    intro registry repository actions found
    obtain ⟨rest, _, result⟩ := Option.map_eq_some_iff.mp found
    split at result
    · cases result
      rfl
    · cases result
  unfold rewriteScope at rejected
  split at rejected
  · split at rejected
    · cases rejected
      rfl
    · split at rejected
      · cases rejected
        rfl
      · split at rejected
        · rename_i found
          rw [rejected] at found
          exact stripped _ _ _ found
        · split at rejected
          · rename_i found
            rw [rejected] at found
            exact stripped _ _ _ found
          · cases rejected
  · cases rejected
    rfl

theorem mergeLoop_error_iff (rawScopes merged : List String) (registry : Registry) :
    mergeLoop rawScopes registry merged = .error 400 ↔ ∃ scope ∈ rawScopes, Rejected scope := by
  induction rawScopes generalizing registry merged with
  | nil => simp [mergeLoop]
  | cons scope rest ih =>
      rw [List.exists_mem_cons_iff]
      cases rewritten : rewriteScope scope with
      | error status =>
          have bad := rewriteScope_status rewritten
          subst bad
          simp [mergeLoop, rewritten, Rejected]
      | ok pair =>
          simp only [mergeLoop, rewritten]
          rw [ih]
          simp [Rejected, rewritten]

theorem mergeLoop_status {rawScopes merged : List String} {registry : Registry} {status : Nat}
    (failed : mergeLoop rawScopes registry merged = .error status) : status = 400 := by
  induction rawScopes generalizing registry merged with
  | nil => cases failed
  | cons scope rest ih =>
      simp only [mergeLoop] at failed
      split at failed
      · rename_i rejected
        cases failed
        exact rewriteScope_status rejected
      · exact ih failed

/-- What `merged_upstream_scope` returns: a 400 when a scope is rejected, else the union of the
rewritten scopes for the registry of one of them. -/
theorem mergedUpstreamScope_cases (rawScopes : List String) :
    (∃ scope ∈ rawScopes, Rejected scope) ∧ mergedUpstreamScope rawScopes = .error 400 ∨
      (∀ scope ∈ rawScopes, ¬ Rejected scope) ∧ ∃ registry scopes,
        mergedUpstreamScope rawScopes = .ok (registry, " ".intercalate scopes) ∧
          Union rawScopes scopes ∧
          (rawScopes ≠ [] → ∃ scope ∈ rawScopes, ∃ upstream,
            rewriteScope scope = .ok (registry, upstream)) := by
  unfold mergedUpstreamScope
  cases looped : mergeLoop rawScopes .dockerHub [] with
  | error status =>
      have bad := mergeLoop_status looped
      subst bad
      exact Or.inl ⟨(mergeLoop_error_iff _ _ _).mp looped, rfl⟩
  | ok pair =>
      right
      refine ⟨?_, pair.1, pair.2, rfl, ⟨mergeLoop_nodup List.nodup_nil looped, ?_⟩, ?_⟩
      · intro scope member rejected
        have failed := (mergeLoop_error_iff rawScopes [] .dockerHub).mpr ⟨scope, member, rejected⟩
        rw [failed] at looped
        cases looped
      · intro upstream
        simpa using mergeLoop_members looped upstream
      · intro some_scope
        exact mergeLoop_registry some_scope looped

/-- Whatever the scopes a client sends, each scope in the merged one that names a type, a name and
actions asks for pulls from a repository. -/
theorem merged_scope_pull_only (rawScopes : List String) (registry : Registry) (upstream : String)
    (merged : mergedUpstreamScope rawScopes = .ok (registry, upstream)) :
    ∀ token ∈ split ' ' upstream, ∀ kind name actions : String,
      token = kind ++ ":" ++ name ++ ":" ++ actions →
        kind = "repository" ∧ ∀ action ∈ split ',' actions, action = "pull" := by
  rcases mergedUpstreamScope_cases rawScopes with ⟨_, failed⟩ | ⟨_, _, scopes, result, union, _⟩
  · rw [failed] at merged
    cases merged
  · rw [result] at merged
    cases merged
    intro token member kind name actions shape
    obtain ⟨chars, among, rfl⟩ := List.mem_map.mp member
    have whole : chars = kind.toList ++ ':' :: (name.toList ++ ':' :: actions.toList) := by
      have spelled := congrArg String.toList shape
      simpa using spelled
    rw [String.toList_intercalate] at among
    rcases Split.mem_splitOn_intercalate among with empty | ⟨piece, inside, part⟩
    · simp [empty] at whole
    · obtain ⟨scope, rewritten, rfl⟩ := List.mem_map.mp inside
      obtain ⟨_, _, _, accepted⟩ := (union.members scope).mp rewritten
      have pull := rewriteScope_pullScope accepted
      have same := pull.token_whole part (by rw [whole]; simp [List.count_append]; omega)
      obtain ⟨repository, pulled, spelled, marks, pulls⟩ := pull
      rw [same, spelled] at whole
      obtain ⟨first, _, third⟩ := Split.two_marks_unique (by decide) marks (pulls_plain pulls).1 whole
      refine ⟨String.toList_inj.mp first.symm, ?_⟩
      intro action member
      obtain ⟨letters, found, rfl⟩ := List.mem_map.mp member
      rw [← third] at found
      rw [pulls letters found]
      rfl

/-- Two scopes sent together with their repository's name cut by a space. -/
theorem merged_scope_pull_only_spaced :
    mergedUpstreamScope ["repository:a b:pull", "repository:ghcr.io/c:pull,pull"] =
        .ok (.ghcr, "repository:a b:pull repository:c:pull,pull") ∧
      ∀ action ∈ split ',' "pull,pull", action = "pull" :=
  ⟨by decide, (merged_scope_pull_only ["repository:a b:pull", "repository:ghcr.io/c:pull,pull"] .ghcr
    "repository:a b:pull repository:c:pull,pull" (by decide) "repository:c:pull,pull" (by decide)
    "repository" "c" "pull,pull" (by decide)).2⟩

def OneRegistry (rawScopes : List String) : Prop :=
  ∀ first ∈ rawScopes, ∀ second ∈ rawScopes, ∀ (one other : Registry) (left right : String),
    rewriteScope first = .ok (one, left) → rewriteScope second = .ok (other, right) → one = other

/-- What merging is for: a list is refused exactly when a scope is rejected or two registries are
named, else the result is the common registry with the union of the rewritten scopes, and the
order of the list is of no matter. -/
structure MergedFaithfully (rawScopes : List String) : Prop where
  refusal : (∃ status, mergedUpstreamScope rawScopes = .error status) ↔
    (∃ scope ∈ rawScopes, Rejected scope) ∨ ¬ OneRegistry rawScopes
  content : ∀ registry upstream, mergedUpstreamScope rawScopes = .ok (registry, upstream) →
    (∀ scope ∈ rawScopes, ∃ rewritten, rewriteScope scope = .ok (registry, rewritten)) ∧
      ∃ scopes, upstream = " ".intercalate scopes ∧ Union rawScopes scopes
  order : ∀ others : List String, others.Perm rawScopes →
    (∃ status, mergedUpstreamScope rawScopes = .error status ∧
      mergedUpstreamScope others = .error status) ∨
    ∃ registry scopes permuted, scopes.Perm permuted ∧
      mergedUpstreamScope rawScopes = .ok (registry, " ".intercalate scopes) ∧
      mergedUpstreamScope others = .ok (registry, " ".intercalate permuted)

theorem Union.perm {rawScopes others scopes permuted : List String} (same : others.Perm rawScopes)
    (union : Union rawScopes scopes) (reunion : Union others permuted) : scopes.Perm permuted := by
  rw [List.perm_ext_iff_of_nodup union.distinct reunion.distinct]
  intro upstream
  rw [union.members, reunion.members]
  constructor
  · intro found
    obtain ⟨scope, member, rewrites⟩ := found
    exact ⟨scope, same.mem_iff.mpr member, rewrites⟩
  · intro found
    obtain ⟨scope, member, rewrites⟩ := found
    exact ⟨scope, same.mem_iff.mp member, rewrites⟩

theorem rewriteScope_of_not_rejected {scope : String} (passed : ¬ Rejected scope) :
    ∃ registry upstream, rewriteScope scope = .ok (registry, upstream) := by
  cases rewritten : rewriteScope scope with
  | error status => exact absurd ⟨status, rewritten⟩ passed
  | ok pair => exact ⟨pair.1, pair.2, rfl⟩

theorem mergedUpstreamScope_one {rawScopes : List String} (one : OneRegistry rawScopes)
    (passed : ∀ scope ∈ rawScopes, ¬ Rejected scope) :
    ∃ registry, (∀ scope ∈ rawScopes, ∃ rewritten, rewriteScope scope = .ok (registry, rewritten)) ∧
      ∀ others : List String, others.Perm rawScopes → ∃ scopes, Union others scopes ∧
        mergedUpstreamScope others = .ok (registry, " ".intercalate scopes) := by
  cases rawScopes with
  | nil =>
      refine ⟨.dockerHub, by simp, ?_⟩
      intro others same
      rw [same.eq_nil]
      exact ⟨[], ⟨List.nodup_nil, by simp⟩, rfl⟩
  | cons first rest =>
      obtain ⟨registry, upstream, named⟩ := rewriteScope_of_not_rejected (passed first List.mem_cons_self)
      have common : ∀ scope ∈ first :: rest, ∃ rewritten,
          rewriteScope scope = .ok (registry, rewritten) := by
        intro scope member
        obtain ⟨other, rewritten, accepted⟩ := rewriteScope_of_not_rejected (passed scope member)
        rw [← one first List.mem_cons_self scope member registry other upstream rewritten named
          accepted] at accepted
        exact ⟨rewritten, accepted⟩
      refine ⟨registry, common, ?_⟩
      intro others same
      rcases mergedUpstreamScope_cases others with ⟨⟨scope, member, rejected⟩, _⟩ | ⟨_, rest⟩
      · exact absurd rejected (passed scope (same.mem_iff.mp member))
      · obtain ⟨chosen, scopes, result, union, source⟩ := rest
        obtain ⟨scope, member, rewritten, accepted⟩ := source (by
          intro empty
          rw [empty] at same
          exact absurd same.symm.eq_nil (by simp))
        obtain ⟨again, expected⟩ := common scope (same.mem_iff.mp member)
        rw [accepted] at expected
        cases expected
        exact ⟨scopes, union, result⟩

/-- Merging is faithful exactly for the lists that are refused or name one registry. -/
theorem merged_scopes_faithful_iff (rawScopes : List String) :
    MergedFaithfully rawScopes ↔ (∃ scope ∈ rawScopes, Rejected scope) ∨ OneRegistry rawScopes := by
  constructor
  · intro faithful
    by_contra neither
    rw [not_or] at neither
    obtain ⟨status, failed⟩ := faithful.refusal.mpr (Or.inr neither.2)
    rcases mergedUpstreamScope_cases rawScopes with ⟨rejected, _⟩ | ⟨_, registry, scopes, result, _⟩
    · exact neither.1 rejected
    · rw [result] at failed
      cases failed
  · intro condition
    by_cases rejected : ∃ scope ∈ rawScopes, Rejected scope
    · have refuses : ∀ others : List String, others.Perm rawScopes →
          mergedUpstreamScope others = .error 400 := by
        intro others same
        rcases mergedUpstreamScope_cases others with ⟨_, failed⟩ | ⟨passed, _⟩
        · exact failed
        · obtain ⟨scope, member, bad⟩ := rejected
          exact absurd bad (passed scope (same.mem_iff.mpr member))
      have failed := refuses rawScopes (List.Perm.refl _)
      refine ⟨iff_of_true ⟨400, failed⟩ (Or.inl rejected), ?_, ?_⟩
      · intro registry upstream merged
        rw [failed] at merged
        cases merged
      · intro others same
        exact Or.inl ⟨400, failed, refuses others same⟩
    · have one := condition.resolve_left rejected
      have passed : ∀ scope ∈ rawScopes, ¬ Rejected scope := by
        intro scope member bad
        exact rejected ⟨scope, member, bad⟩
      obtain ⟨registry, common, merges⟩ := mergedUpstreamScope_one one passed
      obtain ⟨scopes, union, result⟩ := merges rawScopes (List.Perm.refl _)
      refine ⟨?_, ?_, ?_⟩
      · apply iff_of_false
        · intro failed
          obtain ⟨status, failed⟩ := failed
          rw [result] at failed
          cases failed
        · rw [not_or, not_not]
          exact ⟨rejected, one⟩
      · intro chosen upstream merged
        rw [result] at merged
        cases merged
        exact ⟨common, scopes, rfl, union⟩
      · intro others same
        obtain ⟨permuted, reunion, again⟩ := merges others same
        exact Or.inr ⟨registry, scopes, permuted, union.perm same reunion, result, again⟩

/-- A Docker Hub scope and a ghcr.io scope together: both are sent to ghcr.io. -/
theorem mixed_registries_are_merged :
    mergedUpstreamScope ["repository:docker.io/a:pull", "repository:ghcr.io/b:pull"] =
        .ok (.ghcr, "repository:a:pull repository:b:pull") ∧
      ¬ MergedFaithfully ["repository:docker.io/a:pull", "repository:ghcr.io/b:pull"] := by
  have merged : mergedUpstreamScope ["repository:docker.io/a:pull", "repository:ghcr.io/b:pull"] =
      .ok (.ghcr, "repository:a:pull repository:b:pull") := by decide
  refine ⟨merged, ?_⟩
  intro faithful
  obtain ⟨rewritten, accepted⟩ := (faithful.content _ _ merged).1 "repository:docker.io/a:pull"
    List.mem_cons_self
  have found : rewriteScope "repository:docker.io/a:pull" = .ok (.dockerHub, "repository:a:pull") := by
    decide
  rw [found] at accepted
  cases accepted

end WebProxy.Scopes
