import AbapAtlas.Proofs.IssuePerFinding
import AbapAtlas.Proofs.Snapshot

/-! What the resolver of a repository answers. It finds exactly the objects that have a file in the
index, in that file, and it never fails. -/
namespace AbapAtlas

namespace SourceIndex
variable {disk : Disk} {root : Path} {srcDir : String} {extensions : List String}
  {respectIgnore : Bool} {index : SourceIndex}

/-- The path of a file in the index is one that a file can have. -/
theorem hasNull_of_lookup (named : disk.Named)
    (built : build disk root srcDir extensions respectIgnore = .ok index) {file path : String}
    (found : index.lookup file = some path) :
    (root.within (Path.ofString path)).hasNull = false := by
  obtain ⟨names,below,eligible,same,rfl,_⟩ := eligible_of_lookup built found
  obtain ⟨_,_,address,content,reached⟩ := file_of_eligible named eligible
  have whole := (Disk.target?_eq_some_iff.mp reached).1
  rw [same] at whole
  by_cases none : below = []
  · subst none
    exact whole
  · rw [Path.within_joined root none (written_of_eligible named eligible same)]
    exact whole

end SourceIndex

namespace Query
variable {disk : Disk} {root : Path} {srcDir : String} {extensions : List String}
  {respectIgnore : Bool} {index : SourceIndex}

/-- A position is only found in the file that the index has for the object. -/
theorem file?_of_resolve {query : Query} {disk : Disk} {session : Session}
    {position : FilePosition}
    (resolved : (query.resolve index disk session).1 = .ok (some position)) :
    query.file? index = some position.path := by
  cases file : query.file? index with
  | none =>
    rw [resolve_of_unknown file] at resolved
    cases resolved
  | some path =>
    cases counted : LinePlacement.countsFromMethod path with
    | false =>
      rw [resolve_of_uncounted file counted] at resolved
      cases resolved
      rfl
    | true =>
      rw [resolve_of_counted file counted] at resolved
      cases blocks : (session.blocksOf disk path).1 with
      | error trouble =>
        rw [blocks] at resolved
        cases resolved
      | ok found =>
        rw [blocks] at resolved
        cases resolved
        rfl

theorem exists_resolve (named : disk.Named)
    (built : SourceIndex.build disk root srcDir extensions respectIgnore = .ok index)
    (query : Query) : ∃ answer, (query.resolve index disk { base := some root }).1 = .ok answer ∧
      answer.map FilePosition.path = query.file? index := by
  cases file : query.file? index with
  | none =>
    rw [resolve_of_unknown file]
    exact ⟨none,rfl,rfl⟩
  | some path =>
    cases counted : LinePlacement.countsFromMethod path with
    | false =>
      rw [resolve_of_uncounted file counted]
      exact ⟨_,rfl,rfl⟩
    | true =>
      have whole : (Session.fullPath { base := some root } path).hasNull = false :=
        SourceIndex.hasNull_of_lookup named built file
      obtain ⟨found,read⟩ := Session.exists_readLines disk whole
      have blocks := ((Session.faithful_fresh disk (some root)).blocksOf path).1
      rw [Session.readBlocks,read] at blocks
      rw [resolve_of_counted file counted,blocks]
      exact ⟨_,rfl,rfl⟩

end Query

/-- A resolver finds an object in the file that the index has for it. -/
theorem Resolver.file?_of_found {index : SourceIndex} {disk : Disk} {query : Query}
    {session : Session} {position : FilePosition}
    (answer : (Resolver.ofIndex index disk query session).1 = .found position) :
    query.file? index = some position.path := by
  rw [Resolver.ofIndex_eq] at answer
  cases resolved : (query.resolve index disk session).1 with
  | error trouble =>
    rw [resolved] at answer
    cases answer
  | ok found =>
    rw [resolved] at answer
    cases found with
    | none => cases answer
    | some position =>
      cases answer
      exact Query.file?_of_resolve resolved

namespace Issue

def located {σ : Type} (resolver : Resolver σ) (finding : Finding) (memory : σ) : Bool :=
  match Location.startLine (finding.location.getD "") with
  | .error _ => false
  | .ok line =>
    match (resolver (queryOf finding line) memory).1 with
    | .found _ => true
    | _ => false

variable {disk : Disk} {root : Path} {srcDir : String} {extensions : List String}
  {respectIgnore : Bool} {index : SourceIndex}

/-- A finding is located if and only if its object has a file in the index. -/
theorem located_eq (named : disk.Named)
    (built : SourceIndex.build disk root srcDir extensions respectIgnore = .ok index)
    {finding : Finding} {line : Nat}
    (read : Location.startLine (finding.location.getD "") = .ok line) :
    located (Resolver.ofIndex index disk) finding { base := some root } =
      (index.lookup
        (Layout.fileName finding.objectType finding.objectName "abap")).isSome := by
  obtain ⟨answer,resolved,file⟩ := Query.exists_resolve named built (queryOf finding line)
  rw [Query.file?,queryOf] at file
  rw [located,read,← file]
  simp only [Resolver.ofIndex_eq,resolved]
  cases answer <;> rfl

end Issue
end AbapAtlas
