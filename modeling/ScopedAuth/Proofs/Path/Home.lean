import Mathlib.Data.List.Infix
import ScopedAuth.Config.Load
import ScopedAuth.Proofs.Outcome

/-!
# Paths from the home directory

A path with a tilde and a slash in front leads on from the home directory, along the rest of the
path, as long as the rest is not absolute itself: an absolute path stands for itself wherever it is
joined to (`Path.expandHome_below`).  Where the path ends is below the home directory unless the
rest climbs, by two dots.
-/

namespace ScopedAuth

/-- The components of a path that name something: those between its slashes that are not empty. -/
def Path.names (path : String) : List String :=
  (FileTree.components path).filter (· ≠ "")

/-- The location to which the components of a path lead from another. -/
def FileTree.follow (tree : FileTree) (location : List String) (path : String) :
    Option (List String) :=
  (components path).foldlM tree.step? location

/-! ### Components -/

namespace FileTree

/-- A slash ends one component and begins the next. -/
lemma components_append_slash (front behind : String) :
    components (front ++ "/" ++ behind) = components front ++ components behind := by
  have htext : (front ++ "/" ++ behind).toList = front.toList ++ '/' :: behind.toList := by
    rw [String.toList_append, String.toList_append, List.append_assoc]
    rfl
  rw [components, htext, List.splitOn_append_cons_self, List.map_append, components, components]

/-- A path has a component, even if it is empty. -/
lemma components_ne_nil (path : String) : components path ≠ [] := by
  rw [components, Ne, List.map_eq_nil_iff]
  exact List.splitOn_ne_nil _ _

/-- An empty path is one empty component. -/
lemma follow_empty (tree : FileTree) (location : List String) :
    tree.follow location "" = tree.step? location "" := by
  change [""].foldlM tree.step? location = _
  rw [List.foldlM_cons]
  exact bind_pure _

/-- Where a step leads from does not change by an empty component before it. -/
lemma step?_empty_bind (tree : FileTree) (location : List String) (component : String) :
    (tree.step? location "").bind (tree.step? · component) = tree.step? location component := by
  unfold step?
  split
  · next hdirectory =>
    rw [if_pos (Or.inl rfl), Option.bind_some, hdirectory]
  · rfl

/-- The same for all the components of a path. -/
lemma step?_empty_bind_follow (tree : FileTree) (location : List String) (path : String) :
    (tree.step? location "").bind (tree.follow · path) = tree.follow location path := by
  obtain ⟨component, rest, hcomponents⟩ := List.exists_cons_of_ne_nil (components_ne_nil path)
  simp only [follow, hcomponents, List.foldlM_cons]
  rw [← step?_empty_bind tree location component]
  exact (Option.bind_assoc ..).symm

/-- Without two dots, the components that name something are put behind the location. -/
lemma eq_append_of_foldlM_step? {tree : FileTree} {location place : List String}
    {path : List String} (hdots : ".." ∉ path) (h : path.foldlM tree.step? location = some place) :
    place = location ++ (path.filter (· ≠ "")).filter (· ≠ ".") := by
  induction path generalizing location with
  | nil =>
    obtain rfl : location = place := Option.some.inj h
    exact (List.append_nil location).symm
  | cons component rest ih =>
    obtain ⟨hcomponent, hrest⟩ := List.ne_and_not_mem_of_not_mem_cons hdots
    rw [List.foldlM_cons] at h
    obtain ⟨next, hnext, hplace⟩ := Option.bind_eq_some_iff.mp h
    rw [ih hrest hplace]
    unfold step? at hnext
    split at hnext
    · split_ifs at hnext with hstay hup
      · obtain rfl : location = next := Option.some.inj hnext
        rcases hstay with rfl | rfl
        · rfl
        · rfl
      · exact absurd hup hcomponent.symm
      · rw [← Option.some.inj hnext]
        obtain ⟨hempty, hdot⟩ := not_or.mp hstay
        rw [List.filter_cons_of_pos (by simpa using hempty),
          List.filter_cons_of_pos (by simpa using hdot), List.append_assoc, List.singleton_append]
    · exact nomatch hnext

end FileTree

/-! ### Joined paths -/

namespace Path

/-- A path that does not end with a slash gets one between it and the path that leads on, and one
that does needs none. -/
lemma join_cases {base path : String} (hbase : isAbsolute base = true)
    (hpath : isAbsolute path = false) :
    join base path = base ++ "/" ++ path ∨
      ∃ front, base = front ++ "/" ∧ join base path = front ++ "/" ++ path := by
  have hrelative : ¬ isAbsolute path = true := Bool.eq_false_iff.mp hpath
  have hempty : base ≠ "" := by
    rintro rfl
    exact nomatch hbase
  rw [join, if_neg hrelative]
  by_cases hslash : base.toList.getLast? = some '/'
  · right
    obtain ⟨front, hfront⟩ := List.getLast?_eq_some_iff.mp hslash
    have hbase' : base = String.ofList front ++ "/" := by
      rw [← String.toList_inj, hfront, String.toList_append, String.toList_ofList]
      rfl
    refine ⟨String.ofList front, hbase', ?_⟩
    rw [if_pos (Or.inr hslash), ← hbase']
  · left
    rw [if_neg (not_or.mpr ⟨hempty, hslash⟩)]

/-- A path that leads on from an absolute one is absolute. -/
lemma isAbsolute_join {base : String} (hbase : isAbsolute base = true) (path : String) :
    isAbsolute (join base path) = true := by
  have hhead := of_decide_eq_true hbase
  have happend : ∀ behind, isAbsolute (base ++ behind) = true := by
    intro behind
    rw [isAbsolute, String.toList_append, List.head?_append, hhead]
    rfl
  unfold join
  split
  · assumption
  · split
    · exact happend path
    · rw [String.append_assoc]
      exact happend _

/-- The components of a path that leads on from another come behind those of the other. -/
lemma names_join {base path : String} (hbase : isAbsolute base = true)
    (hpath : isAbsolute path = false) : names (join base path) = names base ++ names path := by
  rcases join_cases hbase hpath with hjoin | ⟨front, hfront, hjoin⟩
  · rw [hjoin, names, FileTree.components_append_slash, List.filter_append, names, names]
  · have hslash : FileTree.components (front ++ "/") = FileTree.components front ++ [""] := by
      have hempty := FileTree.components_append_slash front ""
      rwa [String.append_empty] at hempty
    rw [hjoin, names, FileTree.components_append_slash, List.filter_append, hfront, names, hslash,
      List.filter_append, names]
    rw [List.filter_cons_of_neg (by decide), List.filter_nil, List.append_nil]

end Path

/-! ### Following a joined path -/

namespace FileTree

/-- To follow a path that leads on from another is to follow one and then the other. -/
lemma follow_join (tree : FileTree) {base path : String} (hbase : Path.isAbsolute base = true)
    (hpath : Path.isAbsolute path = false) (location : List String) :
    tree.follow location (Path.join base path) =
      (tree.follow location base).bind (tree.follow · path) := by
  rcases Path.join_cases hbase hpath with hjoin | ⟨front, hfront, hjoin⟩
  · rw [hjoin, follow, components_append_slash, List.foldlM_append]
    rfl
  · -- the slash at the end of `base` leads to an empty component, which stays where it is
    have hslash := components_append_slash front ""
    rw [String.append_empty] at hslash
    rw [hjoin, hfront, follow, components_append_slash, List.foldlM_append, follow, hslash,
      List.foldlM_append]
    change ((tree.follow location front).bind (tree.follow · path)) =
      ((tree.follow location front).bind (tree.follow · "")).bind (tree.follow · path)
    rw [Option.bind_assoc]
    congr 1
    funext place
    rw [follow_empty, step?_empty_bind_follow]

/-- An absolute path is looked at from the root, whatever the working directory is. -/
lemma look_of_isAbsolute (tree : FileTree) (directory : String) {path : String}
    (hpath : Path.isAbsolute path = true) :
    tree.look directory path = (tree.follow [] path).bind tree.node? := by
  have hempty : path ≠ "" := by
    rintro rfl
    exact nomatch hpath
  rw [look, if_neg hempty, Path.join, if_pos hpath]
  rfl

end FileTree

/-! ### The home directory -/

namespace Path

/-- A path with a tilde and a slash in front leads on from the home directory. -/
lemma expandHome_tilde (home rest : String) : expandHome home ("~/" ++ rest) = join home rest := by
  have htext : ("~/" ++ rest).toList = '~' :: '/' :: rest.toList := String.toList_append
  rw [expandHome, htext]
  change join home (String.ofList rest.toList) = join home rest
  rw [String.ofList_toList]

/-- Any other path stays what it is. -/
lemma expandHome_of_not_tilde (home : String) {path : String}
    (hpath : ∀ rest, path ≠ "~/" ++ rest) : expandHome home path = path := by
  unfold expandHome
  split
  · next rest htext =>
    have hrest : (String.ofList rest).toList = rest := String.toList_ofList
    refine absurd ?_ (hpath (String.ofList rest))
    rw [← String.toList_inj, htext, String.toList_append, hrest]
    rfl
  · rfl

/-- An absolute path has no tilde in front. -/
lemma expandHome_of_isAbsolute (home : String) {path : String} (hpath : isAbsolute path = true) :
    expandHome home path = path := by
  refine expandHome_of_not_tilde home fun rest hrest => ?_
  have hhead := of_decide_eq_true hpath
  rw [hrest, String.toList_append] at hhead
  exact absurd (Option.some.inj hhead) (by decide)

/-- What stands in the place of a tilde has none itself. -/
lemma expandHome_expandHome {home : String} (hhome : isAbsolute home = true) (path : String) :
    expandHome home (expandHome home path) = expandHome home path := by
  by_cases htilde : ∃ rest, path = "~/" ++ rest
  · obtain ⟨rest, rfl⟩ := htilde
    rw [expandHome_tilde]
    exact expandHome_of_isAbsolute home (isAbsolute_join hhome rest)
  · rw [expandHome_of_not_tilde home (not_exists.mp htilde),
      expandHome_of_not_tilde home (not_exists.mp htilde)]

end Path

/-! ### Looking below the home directory -/

namespace FileTree

/-- A path with a tilde in front is followed from where the home directory is. -/
lemma look_expandHome (tree : FileTree) (directory : String) {home rest : String}
    (hhome : Path.isAbsolute home = true) (hrest : Path.isAbsolute rest = false) :
    tree.look directory (Path.expandHome home ("~/" ++ rest)) =
      ((tree.follow [] home).bind (tree.follow · rest)).bind tree.node? := by
  rw [Path.expandHome_tilde, look_of_isAbsolute tree directory (Path.isAbsolute_join hhome rest),
    follow_join tree hhome hrest]

/-- A path that does not climb leads below where it starts. -/
lemma follow_eq_some {tree : FileTree} {location place : List String} {path : String}
    (hdots : ".." ∉ Path.names path) (h : tree.follow location path = some place) :
    place = location ++ (Path.names path).filter (· ≠ ".") := by
  refine eq_append_of_foldlM_step? (fun hmem => hdots ?_) h
  exact List.mem_filter.mpr ⟨hmem, by decide⟩

/-- What a path with a tilde in front finds, unless its rest climbs, is below the home directory. -/
lemma exists_of_look_expandHome {tree : FileTree} {directory home rest : String} {file : File}
    (hhome : Path.isAbsolute home = true) (hrest : Path.isAbsolute rest = false)
    (hdots : ".." ∉ Path.names rest)
    (hlook : tree.look directory (Path.expandHome home ("~/" ++ rest)) = some file) :
    ∃ place, tree.follow [] home = some place ∧
      tree.node? (place ++ (Path.names rest).filter (· ≠ ".")) = some file := by
  rw [look_expandHome tree directory hhome hrest, Option.bind_assoc] at hlook
  obtain ⟨place, hplace, hfound⟩ := Option.bind_eq_some_iff.mp hlook
  obtain ⟨found, hfollow, hfile⟩ := Option.bind_eq_some_iff.mp hfound
  rw [follow_eq_some hdots hfollow] at hfile
  exact ⟨place, hplace, hfile⟩

end FileTree

/-- A configuration is read from the bytes of a file that is there. -/
lemma Config.exists_of_load_eq_ok {look : String → Id (Option File)} {env : Environment}
    {path : String} {account : Option String} {config : Config}
    (h : Config.load look env path account = .ok config) :
    ∃ content, look (Path.expandHome (env.home account) path) = some (.bytes content) ∧
      ofFile env (Path.expandHome (env.home account) path) (some (.bytes content)) =
        .ok config := by
  change ofFile env _ (look (Path.expandHome (env.home account) path)) = .ok config at h
  cases hfile : look (Path.expandHome (env.home account) path) with
  | none =>
    rw [hfile] at h
    exact nomatch h
  | some file =>
    cases file with
    | directory =>
      rw [hfile] at h
      exact nomatch h
    | bytes content => exact ⟨content, rfl, hfile ▸ h⟩

namespace Path

/-- A path with a tilde and a slash in front is expanded to the components of the home directory
with those of the rest behind them, unless the rest begins with a slash itself: then it is the rest
alone.  Without that slash it is followed from where the home directory is, and a configuration that
is loaded from it comes from a file below, unless a component of the rest is two dots.  Any other
path stays what it is, and to expand a path once more changes nothing. -/
theorem expandHome_below {home : String} (hhome : isAbsolute home = true) (path : String) :
    (∀ rest, path = "~/" ++ rest →
      isAbsolute (expandHome home path) = true ∧
      (names (expandHome home path) = names home ++ names rest ↔
        isAbsolute rest = false ∨ names home = []) ∧
      (isAbsolute rest = true → expandHome home path = rest) ∧
      (isAbsolute rest = false → ∀ (tree : FileTree) (directory : String),
        tree.look directory (expandHome home path) =
          ((tree.follow [] home).bind (tree.follow · rest)).bind tree.node? ∧
        (".." ∉ names rest →
          ∀ (env : Environment) (account : Option String) (config : Config),
            env.home account = home →
            Config.load (m := Id) (tree.look directory) env path account = .ok config →
            ∃ place content, tree.follow [] home = some place ∧
              tree.node? (place ++ (names rest).filter (· ≠ ".")) = some (.bytes content) ∧
              Config.ofFile env (expandHome home path) (some (.bytes content)) = .ok config))) ∧
    ((∀ rest, path ≠ "~/" ++ rest) → expandHome home path = path) ∧
    expandHome home (expandHome home path) = expandHome home path := by
  refine ⟨?_, expandHome_of_not_tilde home, expandHome_expandHome hhome path⟩
  rintro rest rfl
  have habsolute : isAbsolute rest = true → expandHome home ("~/" ++ rest) = rest := by
    intro hrest
    rw [expandHome_tilde, join, if_pos hrest]
  refine ⟨?_, ?_, habsolute, fun hrest tree directory =>
    ⟨tree.look_expandHome directory hhome hrest, ?_⟩⟩
  · rw [expandHome_tilde]
    exact isAbsolute_join hhome rest
  · cases hrest : isAbsolute rest with
    | false =>
      rw [expandHome_tilde]
      exact iff_of_true (names_join hhome hrest) (Or.inl rfl)
    | true =>
      rw [habsolute hrest, List.self_eq_append_left]
      exact ⟨Or.inr, fun h => h.resolve_left Bool.noConfusion⟩
  · rintro hdots env account config rfl hload
    obtain ⟨content, hlook, hconfig⟩ := Config.exists_of_load_eq_ok hload
    obtain ⟨place, hplace, hfile⟩ :=
      FileTree.exists_of_look_expandHome hhome hrest hdots hlook
    exact ⟨place, content, hplace, hfile, hconfig⟩

/-- An empty configuration in the home directory of an account is read from there. -/
theorem expandHome_below_alice :
    isAbsolute "/home/alice" = true ∧
      names (expandHome "/home/alice" "~/x.toml") = ["home", "alice", "x.toml"] ∧
      ∃ place content,
        FileTree.follow ⟨[(["home", "alice", "x.toml"], .bytes ⟨#[]⟩)]⟩ [] "/home/alice" =
          some place ∧
        FileTree.node? ⟨[(["home", "alice", "x.toml"], .bytes ⟨#[]⟩)]⟩ (place ++ ["x.toml"]) =
          some (.bytes content) := by
  have hhome : isAbsolute "/home/alice" = true := by decide
  obtain ⟨-, hnames, -, hlook⟩ := (expandHome_below hhome "~/x.toml").1 "x.toml" (by decide)
  refine ⟨hhome, hnames.mpr (Or.inl (by decide)), ?_⟩
  obtain ⟨place, content, hplace, hfile, -⟩ :=
    (hlook (by decide) ⟨[(["home", "alice", "x.toml"], .bytes ⟨#[]⟩)]⟩ "/").2 (by decide)
      ⟨[("HOME", "")]⟩ (some "/home/alice") .default (by decide) rfl
  exact ⟨place, content, hplace, hfile⟩

/-- The rest of a path can lead out of the home directory: a rest with a slash in front is absolute
and takes the place of the home directory, and two dots climb out of it. -/
theorem expandHome_leaves_home :
    expandHome "/home/alice" "~//etc/realmkey.toml" = "/etc/realmkey.toml" ∧
      ¬ names "/home/alice" <+: names (expandHome "/home/alice" "~//etc/realmkey.toml") ∧
      FileTree.look
        ⟨[(["home", "alice"], .directory), (["home", "bob.toml"], .bytes ⟨#[]⟩)]⟩ "/"
        (expandHome "/home/alice" "~/../bob.toml") = some (.bytes ⟨#[]⟩) :=
  ⟨by decide, by decide, rfl⟩

end Path

end ScopedAuth
