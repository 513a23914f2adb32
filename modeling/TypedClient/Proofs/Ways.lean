import TypedClient.Proofs.Paths
import TypedClient.Rendition.Script

set_option autoImplicit false

/-!
# Ways between places

The way from one place to another climbs to the last place that both are below, and goes down from there. Put behind
the path that it starts from, it leads to its goal: so the configuration of the client class leads from the output
directory to the directory of the schema.
-/

namespace TypedClient

namespace Path

/-! ## Paths behind one another -/

def join (front back : Text) : Text :=
  if isAbsolute back then back
  else if front == "" || front.getLast? == some slash then front ++ back
  else front ++ "/" ++ back

/-- The normal form of a path from the root: exactly two slashes in front are kept, of others one. -/
def normal (path : Text) : Text := root path ++ Text.intercalate "/" (resolve [] path)

def full (current path : Text) : Text := normal (join current path)

theorem resolve_nil (path : Text) : resolve [] path = (parts path).foldl follow [] := by
  rw [resolve, ite_self]

theorem resolve_of_relative {path : Text} (h : isAbsolute path = false) (current : List Text) :
    resolve current path = (parts path).foldl follow current := by
  rw [resolve, h, if_neg Bool.false_ne_true]

theorem resolve_slash (front back : Text) :
    resolve [] (front ++ "/" ++ back) = (parts back).foldl follow (resolve [] front) := by
  rw [resolve_nil, parts_slash, List.foldl_append, resolve_nil]

theorem resolve_end (front : Text) : resolve [] (front ++ "/") = resolve [] front := by
  have hend := resolve_slash front []
  rwa [List.append_nil] at hend

theorem resolve_join (front back : Text) : resolve [] (join front back) = resolve (resolve [] front) back := by
  unfold join
  split_ifs with habsolute hmeet
  · rw [resolve_nil, resolve, if_pos habsolute]
  · rw [Bool.not_eq_true] at habsolute
    have hback := resolve_of_relative habsolute
    rcases (by simpa using hmeet : front = "" ∨ front.getLast? = some slash) with rfl | hslash
    · exact congrArg (resolve · back) (rfl : [] = resolve [] "")
    · obtain ⟨before, rfl⟩ := List.getLast?_eq_some_iff.mp hslash
      have hmeeting : before ++ [slash] = before ++ "/" := rfl
      rw [hmeeting, resolve_slash, resolve_end, hback]
  · rw [Bool.not_eq_true] at habsolute
    rw [resolve_slash, resolve_of_relative habsolute (resolve [] front)]

theorem names_normal (path : Text) : names (normal path) = resolve [] path := by
  have hnames : names (Text.intercalate "/" (resolve [] path)) = resolve [] path :=
    names_intercalate fun name => proper_of_mem_resolve
  unfold normal root
  split
  · exact hnames
  · rw [show ("//" : Text) = "/" ++ "/" from rfl, List.append_assoc, names_slash, names_slash, hnames]
  · rw [names_slash, hnames]

/-! ## Following a way -/

structure Descending (name : Text) : Prop extends Proper name where
  dots : name ≠ ".."

theorem descending_of_mem_resolve {path name : Text} (h : name ∈ resolve [] path) : Descending name := by
  refine ⟨proper_of_mem_resolve h, ?_⟩
  rintro rfl
  rw [resolve_nil] at h
  exact dots_notMem_follow [] (parts path) List.not_mem_nil h

theorem follow_descending {name : Text} (h : Descending name) (place : List Text) :
    follow place name = place ++ [name] := by
  simp [follow, h.empty, h.dot, h.dots]

theorem foldl_follow_descending {names : List Text} (h : ∀ name ∈ names, Descending name) (place : List Text) :
    names.foldl follow place = place ++ names := by
  induction names generalizing place with
  | nil => rw [List.foldl_nil, List.append_nil]
  | cons name rest ih =>
    obtain ⟨hname, hrest⟩ := List.forall_mem_cons.mp h
    rw [List.foldl_cons, follow_descending hname, ih hrest, List.append_assoc, List.singleton_append]

theorem foldl_follow_dots (place : List Text) (n : Nat) :
    (List.replicate n (".." : Text)).foldl follow place = place.take (place.length - n) := by
  induction n generalizing place with
  | zero => rw [List.replicate_zero, List.foldl_nil, Nat.sub_zero, List.take_length]
  | succ n ih =>
    have hup : follow place ".." = place.take (place.length - 1) := List.dropLast_eq_take
    rw [List.replicate_succ, List.foldl_cons, hup, ih, List.take_take, List.length_take]
    congr 1
    omega

theorem foldl_follow_names (path : Text) (place : List Text) :
    (names path).foldl follow place = (parts path).foldl follow place := by
  have hskip (place : List Text) (part : Text) :
      (if part != "" && part != "." then follow place part else place) = follow place part := by
    unfold follow
    split_ifs <;> simp_all
  rw [names, List.foldl_filter]
  simp only [hskip]

theorem resolve_normal (path : Text) : resolve [] (normal path) = resolve [] path := by
  rw [resolve_nil, ← foldl_follow_names, names_normal,
    foldl_follow_descending (fun name => descending_of_mem_resolve), List.nil_append]

theorem common_le (start goal : List Text) : common start goal ≤ start.length := by
  fun_induction common start goal <;> simp_all

theorem take_common (start goal : List Text) : start.take (common start goal) = goal.take (common start goal) := by
  fun_induction common start goal <;> simp_all

theorem foldl_follow_way {goal : List Text} (h : ∀ name ∈ goal, Descending name) (start : List Text) :
    (way start goal).foldl follow start = goal := by
  have hclimb : start.length - (start.length - common start goal) = common start goal :=
    Nat.sub_sub_self (common_le start goal)
  have hdown : ∀ name ∈ goal.drop (common start goal), Descending name :=
    fun name hname => h name (List.mem_of_mem_drop hname)
  calc (way start goal).foldl follow start
      = (goal.drop (common start goal)).foldl follow (start.take (common start goal)) := by
        rw [way, List.foldl_append, foldl_follow_dots, hclimb]
    _ = goal.take (common start goal) ++ goal.drop (common start goal) := by
        rw [foldl_follow_descending hdown, take_common]
    _ = goal := List.take_append_drop _ goal

/-! ## Ways as paths -/

theorem proper_of_mem_way {start goal : List Text} (h : ∀ name ∈ goal, Proper name) :
    ∀ name ∈ way start goal, Proper name := by
  intro name hname
  rcases List.mem_append.mp hname with hup | hdown
  · obtain rfl := List.eq_of_mem_replicate hup
    exact ⟨by decide, by decide, by decide⟩
  · exact h name (List.mem_of_mem_drop hdown)

theorem root_of_relative {path : Text} (h : isAbsolute path = false) : root path = "" := by
  have hnone : path.takeWhile (· == slash) = [] := by
    cases path with
    | nil => rfl
    | cons l rest => simp [show l ≠ slash by simpa [isAbsolute] using h]
  rw [root, hnone]
  rfl

section Written

variable {w : List Text} (h : ∀ name ∈ w, Proper name)
include h

theorem names_ofWay : names (ofWay w) = w := by
  unfold ofWay
  split_ifs with hempty
  · rw [List.isEmpty_iff.mp hempty]
    decide
  · exact names_intercalate h

theorem isAbsolute_ofWay : isAbsolute (ofWay w) = false := by
  unfold ofWay
  split_ifs with hempty
  · decide
  · rw [← Bool.not_eq_true]
    intro habsolute
    -- a slash in front would make the first name empty
    obtain ⟨rest, hrest⟩ := List.head?_eq_some_iff.mp (by simpa [isAbsolute] using habsolute)
    have htext : Text.intercalate "/" w = "" ++ "/" ++ rest := hrest
    have hparts := parts_intercalate h (mt List.isEmpty_iff.mpr hempty)
    rw [htext, parts_slash] at hparts
    exact (h "" (hparts ▸ List.mem_append_left _ (by decide))).empty rfl

theorem resolve_ofWay (current : List Text) : resolve current (ofWay w) = w.foldl follow current := by
  rw [resolve_of_relative (isAbsolute_ofWay h), ← foldl_follow_names, names_ofWay h]

theorem plain_ofWay : plain (ofWay w) = ofWay w := by
  have hnames := names_ofWay h
  rw [plain, root_of_relative (isAbsolute_ofWay h), hnames, Text.ofString_empty, List.nil_append]
  by_cases hsome : w = []
  · rw [hsome]
    decide
  · have htext : ofWay w = Text.intercalate "/" w := if_neg (by simpa using hsome)
    have hwritten : ofWay w ≠ [] := by
      intro hempty
      rw [hempty] at hnames
      exact hsome hnames.symm
    rw [← htext]
    exact if_neg (by simpa using hwritten)

end Written

end Path

namespace Settings

open TypedClient.Path

/-- Whatever the current directory, the configuration holds a relative path in plain form. Put behind the output
directory it has the names of the directory of the schema in its normal form. -/
theorem relativePath_leads {s : Settings} (hdir : s.schemaDir ≠ "") (current : Text) :
    ∃ config path, s.clientConfig (resolve [] current) = .ok config ∧
      config.get? "relativePath" = some (.str path) ∧ isAbsolute path = false ∧ plain path = path ∧
      names (normal (join (full current s.outputDir) path)) = names (full current s.schemaDir) := by
  have hfull (path : Text) : resolve [] (join current path) = resolve (resolve [] current) path :=
    resolve_join current path
  let start := resolve (resolve [] current) s.outputDir
  let goal := resolve (resolve [] current) s.schemaDir
  have hgoal : ∀ name ∈ goal, Descending name := by
    intro name hname
    have hjoined : name ∈ resolve [] (join current s.schemaDir) := by rwa [hfull]
    exact descending_of_mem_resolve hjoined
  have hway : ∀ name ∈ way start goal, Proper name := proper_of_mem_way fun name hname => (hgoal name hname).toProper
  have hconfig : s.clientConfig (resolve [] current) = .ok (s.configWith (ofWay (way start goal))) := by
    rw [clientConfig, schemaPath, if_neg (mt List.isEmpty_iff.mp hdir)]
    rfl
  refine ⟨_, ofWay (way start goal), hconfig, rfl, isAbsolute_ofWay hway, plain_ofWay hway, ?_⟩
  calc names (normal (join (full current s.outputDir) (ofWay (way start goal))))
      = resolve (resolve [] (full current s.outputDir)) (ofWay (way start goal)) := by rw [names_normal, resolve_join]
    _ = (way start goal).foldl follow start := by rw [full, resolve_normal, hfull, resolve_ofWay hway]
    _ = goal := foldl_follow_way hgoal start
    _ = names (full current s.schemaDir) := by rw [full, names_normal, hfull]

/-- From an output directory given from the root, which climbs above it, to a directory of the schema beside the
current one. -/
theorem besideCurrent_leads :
    ({ outputDir := "//../srv/./gen/", schemaDir := "../db//schema" } : Settings).schemaDir ≠ "" ∧
      Path.relative (resolve [] "/home/dev") "../db//schema" "//../srv/./gen/" = "../../home/db/schema" ∧
      ∃ config path, ({ outputDir := "//../srv/./gen/", schemaDir := "../db//schema" } : Settings).clientConfig
          (resolve [] "/home/dev") = .ok config ∧
        config.get? "relativePath" = some (.str path) ∧ isAbsolute path = false ∧ plain path = path ∧
        names (normal (join (full "/home/dev" "//../srv/./gen/") path)) = names (full "/home/dev" "../db//schema") :=
  ⟨by decide, by decide, relativePath_leads (by decide) "/home/dev"⟩

end Settings

end TypedClient
