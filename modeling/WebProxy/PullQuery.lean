import WebProxy.Library.Percent
import WebProxy.PullStream

/-! The queries that are sent to the daemon carry what the plan says and nothing else: no text in a plan
can end a parameter or begin another. -/

namespace WebProxy.Pulls

open ImageRef (PullSpec)

def retagUri (spec : PullSpec) : Except String String :=
  match spec.retagRepo, spec.retagTag with
  | none, _ => .error "retag repo missing"
  | some _, none => .error "retag tag missing"
  | some repo, some tag =>
      let pulled := match spec.tag with
        | some pulledTag => spec.pullRepo ++ ":" ++ pulledTag
        | none => spec.pullRepo ++ "@" ++ spec.digest.getD ""
      .ok ("/images/" ++ percentEncodePath pulled ++ "/tag?repo=" ++ percentEncodePath repo ++
        "&tag=" ++ percentEncodePath tag)

def uriParameters (uri : String) : Option (List (String × String)) :=
  (Split.splitOnce '?' uri.toList).bind (fun sides => Percent.parameters sides.2)

def pullParameters (spec : PullSpec) : List (String × String) :=
  ("fromImage", spec.pullRepo) ::
    (spec.tag.toList.map (fun tag => ("tag", tag)) ++
      spec.digest.toList.map (fun digest => ("digest", digest)))

theorem percentEncodePath_toList (input : String) :
    (percentEncodePath input).toList = Percent.encodeText input := String.toList_ofList

theorem uriParameters_of_shape {uri : String} {path : List Char} {given : List (String × String)}
    (plain : '?' ∉ path) (some_parameter : given ≠ [])
    (shape : uri.toList = path ++ '?' :: List.intercalate ['&'] (given.map Percent.encodeParameter)) :
    uriParameters uri = some given := by
  rw [uriParameters, shape, Split.splitOnce_append plain, Option.bind_some,
    Percent.parameters_intercalate some_parameter]

theorem encodeText_names : Percent.encodeText "fromImage" = "fromImage".toList ∧
    Percent.encodeText "tag" = "tag".toList ∧ Percent.encodeText "digest" = "digest".toList ∧
    Percent.encodeText "repo" = "repo".toList := by decide +kernel

theorem pullUri_shape (spec : PullSpec) :
    (pullUri spec).toList = "/images/create".toList ++
      '?' :: List.intercalate ['&'] ((pullParameters spec).map Percent.encodeParameter) := by
  obtain ⟨image, tag, digest, _⟩ := encodeText_names
  unfold pullUri pullParameters
  cases spec.tag with
  | none =>
      cases spec.digest with
      | none => simp [Percent.encodeParameter, percentEncodePath_toList, image]
      | some value => simp [Percent.encodeParameter, percentEncodePath_toList, image, digest]
  | some name =>
      cases spec.digest with
      | none => simp [Percent.encodeParameter, percentEncodePath_toList, image, tag]
      | some value => simp [Percent.encodeParameter, percentEncodePath_toList, image, tag, digest]

/-- What the daemon reads out of the request is what the plan says, for every text in it; encoded texts
hold unreserved characters and triplets only, and they are read back. -/
theorem pull_query_read_back :
    (∀ spec : PullSpec, uriParameters (pullUri spec) = some (pullParameters spec)) ∧
    ∀ input : String,
      (∃ pieces : List (List Char), (percentEncodePath input).toList = pieces.flatten ∧
        ∀ piece ∈ pieces, Percent.Spelled piece) ∧
      Percent.decodeText (percentEncodePath input).toList = some input := by
  constructor
  · intro spec
    exact uriParameters_of_shape (by decide) (List.cons_ne_nil _ _) (pullUri_shape spec)
  · intro input
    rw [percentEncodePath_toList]
    exact ⟨Percent.encode_spelled _, Percent.decodeText_encodeText input⟩

theorem retag_query_read_back {spec : PullSpec} {uri : String} (made : retagUri spec = .ok uri) :
    ∃ repo tag, spec.retagRepo = some repo ∧ spec.retagTag = some tag ∧
      uriParameters uri = some [("repo", repo), ("tag", tag)] := by
  obtain ⟨_, name, _, repository⟩ := encodeText_names
  unfold retagUri at made
  cases target : spec.retagRepo with
  | none =>
      rw [target] at made
      cases made
  | some repo =>
      cases named : spec.retagTag with
      | none =>
          simp only [target, named] at made
          cases made
      | some tag =>
          simp only [target, named] at made
          cases made
          refine ⟨repo, tag, rfl, rfl, ?_⟩
          generalize pulledAs : (match spec.tag with
            | some pulledTag => spec.pullRepo ++ ":" ++ pulledTag
            | none => spec.pullRepo ++ "@" ++ spec.digest.getD "") = pulled
          have plain : '?' ∉ "/images/".toList ++ Percent.encodeText pulled ++ "/tag".toList := by
            rw [List.mem_append, List.mem_append, not_or, not_or]
            exact ⟨⟨by decide, Percent.sign_not_mem_encode (by decide) (by decide) _⟩, by decide⟩
          refine uriParameters_of_shape plain (List.cons_ne_nil _ _) ?_
          simp [Percent.encodeParameter, percentEncodePath_toList, repository, name]

end WebProxy.Pulls
