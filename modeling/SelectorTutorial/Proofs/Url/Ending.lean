import SelectorTutorial.Proofs.Text.Blank
import SelectorTutorial.Proofs.Url.Plain
import SelectorTutorial.Url.Reader

/-! What a name comes to that is put after a slash at the end of a text: it ends up at the end of
whatever part of the URL was read last. -/

namespace SelectorTutorial

namespace Url

/-! ### What is read of a text that goes on -/

/-- One URL goes on where another one ends, after a slash: with a name at the end of the part that
was read last. -/
inductive Continues (name : String) (url : Url) : Url → Prop
  /-- The name is the last segment of the path. -/
  | path {list : List String} (path : url.path = .segments (list ++ [""]))
      (noQuery : url.query = none) (noFragment : url.fragment = none) :
      Continues name url { url with path := .segments (list ++ [name]) }
  /-- The name is the end of a path without segments. -/
  | flat {text : String} (path : url.path = .flat text) (noQuery : url.query = none)
      (noFragment : url.fragment = none) :
      Continues name url { url with path := .flat (text ++ name) }
  /-- The name is the end of a query. -/
  | query {text : String} (query : url.query = some text) (noFragment : url.fragment = none) :
      Continues name url { url with query := some (text ++ name) }
  /-- The name is the end of a fragment. -/
  | fragment {text : String} (fragment : url.fragment = some text) :
      Continues name url { url with fragment := some (text ++ name) }

section Reading

variable {name : String}

/-- Texts are encoded part by part. -/
theorem percentEncode_append (encoded : Char → Bool) (cs more : List Char) :
    percentEncode encoded (cs ++ more) = percentEncode encoded cs ++ percentEncode encoded more :=
  -- Character by character.
  List.flatMap_append

/-- A plain name goes on with a query as it is. -/
theorem encodedQuery_append (plain : IsPlain name) (special : Bool) (cs : List Char) :
    encodedQuery special (cs ++ name.toList) = encodedQuery special cs ++ name := by
  -- None of its characters is encoded in a query.
  have same := plain.percentEncode_eq (encodedInQuery special) (by decide +revert)
  rw [encodedQuery, percentEncode_append, same, String.ofList_append, String.ofList_toList]
  rfl

/-- A plain name goes on with a fragment as it is. -/
theorem encodedFragment_append (plain : IsPlain name) (cs : List Char) :
    encodedFragment (cs ++ name.toList) = encodedFragment cs ++ name := by
  -- None of its characters is encoded in a fragment.
  have same := plain.percentEncode_eq encodedInFragment (by decide)
  rw [encodedFragment, percentEncode_append, same, String.ofList_append, String.ofList_toList]
  rfl

/-- A plain name brings no mark with it. -/
theorem unmarked_append (plain : IsPlain name) {cs : List Char} (unmarked : afterPath cs = []) :
    ∀ c ∈ cs ++ name.toList, (c != '?' && c != '#') = true := by
  -- Neither the text nor the name has a mark.
  intro c inside
  rcases List.mem_append.mp inside with here | there
  · exact List.dropWhile_eq_nil_iff.mp unmarked c here
  · exact of_isPlain (fun c => c != '?' && c != '#') (by decide) (plain c there)

/-- A path without a mark behind it has none with a plain name at its end either. -/
theorem afterPath_append_of_unmarked (plain : IsPlain name) {cs : List Char}
    (unmarked : afterPath cs = []) : afterPath (cs ++ name.toList) = [] :=
  -- There is no character to stop at.
  List.dropWhile_eq_nil_iff.mpr (unmarked_append plain unmarked)

/-- What follows a path goes on with whatever is appended. -/
theorem afterPath_append_of_marked {cs : List Char} (marked : afterPath cs ≠ [])
    (more : List Char) : afterPath (cs ++ more) = afterPath cs ++ more :=
  -- The text is cut at the mark.
  dropWhile_append_of_cut marked more

/-- Behind a sharp sign all is fragment. -/
theorem withTail_fragment (url : Url) (cs : List Char) : url.withTail ('#' :: cs) =
    { url with query := none, fragment := some (encodedFragment cs) } := rfl

/-- Some characters that have a mark in them are cut at a question mark or a sharp sign. -/
theorem marked_of_afterPath {cs : List Char} (cut : afterPath cs ≠ []) :
    (afterPath cs).head? = some '?' ∨ (afterPath cs).head? = some '#' := by
  -- The text is cut at its first mark, and there are two marks.
  obtain ⟨c, rest, split, stops⟩ := exists_dropWhile_eq_cons cut
  rw [afterPath, split]
  by_cases query : c = '?'
  · exact .inl (congrArg some query)
  · refine .inr (congrArg some ?_)
    simpa [query] using stops

namespace Continues

/-- A name after a query or a fragment goes on with that. -/
theorem withTail (plain : IsPlain name) (url : Url) {cs : List Char}
    (marked : cs.head? = some '?' ∨ cs.head? = some '#') :
    Continues name (url.withTail cs) (url.withTail (cs ++ name.toList)) := by
  -- By the mark, and in a query by whether there is a fragment behind it.
  rcases marked with query | fragment
  · obtain ⟨after, rfl⟩ := List.head?_eq_some_iff.mp query
    by_cases cut : after.dropWhile (· != '#') = []
    · -- All that follows the question mark is the query.
      have whole : ∀ cs : List Char, cs.dropWhile (· != '#') = [] →
          url.withTail ('?' :: cs) =
            { url with
              query := some (encodedQuery (isSpecial url.scheme) cs)
              fragment := none } := by
        intro cs none
        have all := List.takeWhile_append_dropWhile (p := (· != '#')) (l := cs)
        rw [none, List.append_nil] at all
        rw [Url.withTail, none, all]
      have cutMore : (after ++ name.toList).dropWhile (· != '#') = [] := by
        rw [List.dropWhile_append, cut, plain.dropWhile_eq (by decide)]
        rfl
      rw [List.cons_append, whole _ cut, whole _ cutMore, encodedQuery_append plain]
      exact .query rfl rfl
    -- The query ends before the fragment, which goes on with the name.
    · obtain ⟨c, rest, split, stops⟩ := exists_dropWhile_eq_cons cut
      obtain rfl : c = '#' := by simpa using stops
      have splitMore := dropWhile_append_of_cut cut name.toList
      rw [split] at splitMore
      rw [List.cons_append, Url.withTail, Url.withTail, takeWhile_append_of_cut cut, split,
        splitMore]
      simp only [List.cons_append, encodedFragment_append plain]
      exact .fragment rfl
  · obtain ⟨after, rfl⟩ := List.head?_eq_some_iff.mp fragment
    rw [List.cons_append, withTail_fragment, withTail_fragment, encodedFragment_append plain]
    exact .fragment rfl

end Continues

/-- The last of several segments is gone to after all the others. -/
theorem descendAll_concat (scheme : String) (start : List String) (before : List (List Char))
    (last : List Char) :
    descendAll scheme start (before ++ [last]) =
      descend scheme true (before.foldl (descend scheme false) start) last := by
  -- Segment by segment: only the last of them is told that it is the last.
  induction before generalizing start with
  | nil => rfl
  | cons next before ih =>
    obtain ⟨first, others, more⟩ := List.exists_cons_of_ne_nil
      (List.append_ne_nil_of_right_ne_nil before (List.cons_ne_nil last []))
    rw [List.cons_append, List.foldl_cons, ← ih, more, descendAll]
    exact nofun

/-- Where a path goes on with a segment, a plain name is its last one. -/
theorem exists_descendAll_eq (special : Bool) (scheme : String) (start : List String)
    {cs : List Char} (starts : StartsSegment cs) (unmarked : afterPath cs = []) :
    ∃ path, ∀ name, IsPlain name →
      descendAll scheme start (pathPieces special (cs ++ name.toList)) = path ++ [name] := by
  obtain ⟨before, -, split⟩ := exists_pieces_append
    (p := fun c => c == '/' || (special && c == '\\')) starts rfl
  -- All but the last of the pieces are the same for every name.
  refine ⟨(before.map (percentEncode encodedInPath)).foldl (descend scheme false) start, ?_⟩
  intro name plain
  have noSlash : ∀ c ∈ name.toList, (c == '/' || (special && c == '\\')) = false := by
    have noneCuts : ∀ special n, n < 128 → isPlain (.ofNat n) →
        !(Char.ofNat n == '/' || (special && Char.ofNat n == '\\')) := by
      decide
    intro c inside
    have holds := of_isPlain (fun c => !(c == '/' || (special && c == '\\')))
      (noneCuts special) (plain c inside)
    rwa [Bool.not_eq_true'] at holds
  have same : percentEncode encodedInPath name.toList = name.toList :=
    plain.percentEncode_eq _ (by decide)
  rw [pathPieces, List.takeWhile_eq_self_iff.mpr (unmarked_append plain unmarked),
    split _ noSlash, List.map_append, List.map_singleton, same, descendAll_concat, plain.descend_eq]

namespace Continues

/-- A name after a slash in a path is its last segment. -/
theorem withPath (plain : IsPlain name) (url : Url) (start : List String) {cs : List Char}
    (starts : StartsSegment cs) :
    Continues name (url.withPath start cs) (url.withPath start (cs ++ name.toList)) := by
  -- By whether a query or a fragment comes after the path.
  by_cases unmarked : afterPath cs = []
  · obtain ⟨path, segments⟩ := exists_descendAll_eq (isSpecial url.scheme) url.scheme start starts
      unmarked
    have here := segments "" (by decide)
    rw [String.toList_empty, List.append_nil] at here
    rw [Url.withPath, Url.withPath, here, segments name plain, unmarked,
      afterPath_append_of_unmarked plain unmarked]
    exact .path rfl rfl rfl
  -- The path is cut before the name, which comes to the end of the query or the fragment.
  · have marked := marked_of_afterPath unmarked
    have pieces : pathPieces (isSpecial url.scheme) (cs ++ name.toList) =
        pathPieces (isSpecial url.scheme) cs := by
      rw [pathPieces, takeWhile_append_of_cut unmarked, ← pathPieces]
    rw [Url.withPath, Url.withPath, pieces, afterPath_append_of_marked unmarked]
    exact withTail plain _ marked

/-- A name after a slash stays there when it is seen that a path has a root. -/
theorem withRootPath (plain : IsPlain name) (url : Url) {cs : List Char}
    (starts : StartsSegment cs) (some : cs ≠ []) :
    Continues name (url.withRootPath cs) (url.withRootPath (cs ++ name.toList)) := by
  -- By the first character, which is a slash, a mark, or the start of a segment.
  obtain ⟨c, rest, rfl⟩ := List.exists_cons_of_ne_nil some
  rw [List.cons_append]
  simp only [Url.withRootPath]
  split
  · exact withPath plain url [] (starts.of_suffix (List.suffix_cons c rest))
  · split
    · exact withPath plain url [] starts
    · next slash other =>
      -- Nothing but a query or a fragment is left.
      have marked : c = '?' ∨ c = '#' := by
        by_contra neither
        exact other (.inr (not_or.mp neither))
      apply withTail plain
      simpa using marked

end Continues

/-- What becomes of the path of a file does not hang on the rest of its URL. -/
theorem exists_trimRoot (path : Path) :
    ∃ trimmed, ∀ url : Url, url.path = path → url.trimRoot = { url with path := trimmed } := by
  -- The rest of the URL is passed on as it is.
  cases path with
  | flat text =>
    refine ⟨.flat text, fun url isPath => ?_⟩
    simp only [trimRoot, isPath]
    rw [← isPath]
  | segments list => exact ⟨_, fun url isPath => by rw [trimRoot, isPath]⟩

/-- The path of a file keeps its last segment when it loses the empty ones at its head. -/
theorem exists_trimRoot_eq (list : List String) :
    ∃ front : List String, ∀ (url : Url) (last : String), url.path = .segments (list ++ [last]) →
      url.trimRoot = { url with path := .segments (front ++ [last]) } := by
  -- Where all segments before the last one are empty, it is the only one that is left.
  by_cases cut : list.dropWhile (· == "") = []
  · refine ⟨[], fun url last path => ?_⟩
    rw [trimRoot, path]
    by_cases empty : last = ""
    · simp [List.dropWhile_append, cut, empty]
    · simp [List.dropWhile_append, cut, empty]
  · refine ⟨list.dropWhile (· == ""), fun url last path => ?_⟩
    obtain ⟨first, rest, split, -⟩ := exists_dropWhile_eq_cons cut
    rw [trimRoot, path]
    simp only [dropWhile_append_of_cut cut, split, List.cons_append]

/-- Whether a drive is at the head of a path does not hang on a plain name at its end. -/
theorem head?_any_isSettledDrive_concat (plain : IsPlain name) (list : List String) :
    (list ++ [name]).head?.any isSettledDrive = list.head?.any isSettledDrive := by
  -- The head is another one only where the path was empty, and a plain name has no colon.
  cases list with
  | nil =>
    have noDrive : isSettledDrive name = false := by
      have noColon : ':' ∉ name.toList := fun inside => absurd (plain ':' inside) (by decide)
      simp [isSettledDrive, noColon]
    simpa using noDrive
  | cons first rest => rfl

namespace Continues

/-- A name goes on with a URL whose root is trimmed. -/
theorem trimRoot {url more : Url} (continues : Continues name url more) :
    Continues name url.trimRoot more.trimRoot := by
  -- Only a name that goes on with the path is in the part that is trimmed, and there it is at the
  -- other end.
  cases continues with
  | @path list path noQuery noFragment =>
    obtain ⟨front, trimmed⟩ := exists_trimRoot_eq list
    rw [trimmed url "" path, trimmed _ name rfl]
    exact .path rfl noQuery noFragment
  | flat path noQuery noFragment =>
    simp only [Url.trimRoot, path]
    exact .flat path noQuery noFragment
  | @query text query noFragment =>
    obtain ⟨trimmed, trim⟩ := exists_trimRoot url.path
    rw [trim url rfl, trim { url with query := some (text ++ name) } rfl]
    exact .query query noFragment
  | @fragment text fragment =>
    obtain ⟨trimmed, trim⟩ := exists_trimRoot url.path
    rw [trim url rfl, trim { url with fragment := some (text ++ name) } rfl]
    exact .fragment fragment

/-- A name goes on with a URL whose host is dropped for a drive. -/
theorem dropHostOfDrive (plain : IsPlain name) {url more : Url}
    (continues : Continues name url more) :
    Continues name url.dropHostOfDrive more.dropHostOfDrive := by
  cases continues with
  | @path list path noQuery noFragment =>
    -- Either both URLs lose their hosts or neither does.
    have same : (Path.segments (list ++ [name])).parts.head?.any isSettledDrive =
        url.path.parts.head?.any isSettledDrive := by
      have empty : IsPlain "" := by decide
      rw [path, Path.parts, Path.parts, head?_any_isSettledDrive_concat plain,
        head?_any_isSettledDrive_concat empty]
    simp only [Url.dropHostOfDrive, same]
    split <;> exact .path path noQuery noFragment
  | flat path noQuery noFragment =>
    simp only [Url.dropHostOfDrive, path, Path.parts]
    exact .flat path noQuery noFragment
  | query query noFragment =>
    simp only [Url.dropHostOfDrive]
    split <;> exact .query query noFragment
  | fragment fragment =>
    simp only [Url.dropHostOfDrive]
    split <;> exact .fragment fragment

/-- A name goes on with the path of a URL without a host, or with what comes after it. -/
theorem withoutHost (plain : IsPlain name) (scheme : String) {cs : List Char}
    (starts : StartsSegment cs) (some : cs ≠ []) :
    Continues name (withoutHost scheme cs) (withoutHost scheme (cs ++ name.toList)) := by
  -- After a slash there is a path of segments; else the path is flat, and the name goes on with it
  -- or with what comes after it.
  obtain ⟨c, rest, rfl⟩ := List.exists_cons_of_ne_nil some
  by_cases slash : c = '/'
  · subst slash
    exact withPath plain _ [] (starts.of_suffix (List.suffix_cons '/' rest))
  · have flat : ∀ more : List Char, Url.withoutHost scheme (c :: more) =
        { scheme, path := .flat (.ofList (percentEncode encodedAlways
          ((c :: more).takeWhile fun c => c != '?' && c != '#'))) : Url }.withTail
          (afterPath (c :: more)) := by
      intro more
      rw [Url.withoutHost]
      intro _ same
      exact slash (List.cons.inj same).1
    rw [List.cons_append, flat, flat, ← List.cons_append]
    by_cases unmarked : afterPath (c :: rest) = []
    · have whole := List.takeWhile_eq_self_iff.mpr (List.dropWhile_eq_nil_iff.mp unmarked)
      have wholeMore := List.takeWhile_eq_self_iff.mpr (unmarked_append plain unmarked)
      have same := plain.percentEncode_eq encodedAlways (by decide)
      rw [whole, wholeMore, unmarked, afterPath_append_of_unmarked plain unmarked,
        percentEncode_append, same, String.ofList_append, String.ofList_toList]
      exact .flat rfl rfl rfl
    · rw [takeWhile_append_of_cut unmarked, afterPath_append_of_marked unmarked]
      exact withTail plain _ (marked_of_afterPath unmarked)

end Continues

/-- Where one text is read as a URL, another one is read as a URL that goes on with a name. -/
def Reads (name : String) (read more : Except Fault Url) : Prop :=
  ∀ url, read = .ok url → ∃ longer, more = .ok longer ∧ Continues name url longer

namespace Reads

/-- Where nothing is read there is nothing to go on with. -/
theorem of_fault {read more : Except Fault Url} {fault : Fault} (fails : read = .error fault) :
    Reads name read more := by
  -- No URL was found.
  intro url found
  rw [fails] at found
  cases found

/-- A name goes on with a URL where it goes on with what was read. -/
theorem of_continues {url longer : Url} (continues : Continues name url longer) :
    Reads name (.ok url) (.ok longer) := by
  -- Both texts are read.
  rintro _ ⟨⟩
  exact ⟨longer, rfl, continues⟩

/-- What is read first is the same in both texts. -/
theorem bind {α : Type} (first : Except Fault α) {next other : α → Except Fault Url}
    (reads : ∀ a, Reads name (next a) (other a)) :
    Reads name (first >>= next) (first >>= other) := by
  -- A fault in what is read first is a fault of both.
  cases first with
  | error fault => exact of_fault rfl
  | ok a => exact reads a

/-- A name goes on with a URL that has a host. -/
theorem ofAuthority (plain : IsPlain name) (scheme : String) {cs : List Char}
    (starts : StartsSegment cs) (some : cs ≠ []) :
    Reads name (ofAuthority scheme cs) (ofAuthority scheme (cs ++ name.toList)) := by
  -- The text is cut before the path, and the slash at its end is not before that.
  have cut : cs.dropWhile (fun c => !endsAuthority (isSpecial scheme) c) ≠ [] :=
    starts.dropWhile_ne_nil some rfl
  unfold Url.ofAuthority
  simp only [takeWhile_append_of_cut cut, dropWhile_append_of_cut cut]
  have startsRest := starts.of_suffix
    (List.dropWhile_suffix fun c => !endsAuthority (isSpecial scheme) c)
  generalize cs.dropWhile (fun c => !endsAuthority (isSpecial scheme) c) = rest at *
  have last : (rest ++ name.toList).isEmpty = rest.isEmpty := by
    obtain ⟨c, after, rfl⟩ := List.exists_cons_of_ne_nil cut
    rfl
  have path : ∀ (url : Url) (left : List Char), Continues name (url.withRootPath (left ++ rest))
      (url.withRootPath (left ++ (rest ++ name.toList))) := by
    intro url left
    rw [← List.append_assoc]
    exact .withRootPath plain url (startsRest.append_left cut left) (by simp [cut])
  rw [last]
  -- The user, the host and the port come before the slash, so they are read alike.
  split
  · exact .of_fault rfl
  · split
    · exact .of_fault rfl
    · split
      all_goals
        refine .bind _ fun host => ?_
        split
        · exact .of_fault rfl
        · exact .bind _ fun port => .of_continues (path _ _)

/-- A name goes on with the URL of a file that may be on a host. -/
theorem ofFileAuthority (plain : IsPlain name) {cs : List Char} (starts : StartsSegment cs)
    (some : cs ≠ []) :
    Reads name (ofFileAuthority cs) (ofFileAuthority (cs ++ name.toList)) := by
  -- The host ends at the same slash in both texts, so only the path is read of different texts.
  have cut : cs.dropWhile (fun c => !endsAuthority true c) ≠ [] := starts.dropWhile_ne_nil some rfl
  have startsRest := starts.of_suffix (List.dropWhile_suffix fun c => !endsAuthority true c)
  unfold Url.ofFileAuthority
  simp only [takeWhile_append_of_cut cut, dropWhile_append_of_cut cut]
  split
  · exact .of_continues (Continues.withPath plain _ [] starts).trimRoot
  · refine .bind _ fun host => ?_
    split
    · exact .of_continues (Continues.withPath plain _ [] startsRest).trimRoot
    · exact .of_continues
        ((Continues.withRootPath plain _ startsRest cut).dropHostOfDrive plain).trimRoot

end Reads

/-- After one slash, a file without another one beside it is on no host. -/
theorem ofFile_cons {slash : Char} (isSlash : isSlash slash) (cs : List Char)
    (single : ∀ c ∈ cs.head?, ¬ Url.isSlash c) :
    ofFile none (slash :: cs) = .ok (bareFile.withPath [] cs).trimRoot := by
  -- The second character decides whether there is a host.
  have root : ∀ cs, ofFileRoot none cs = (bareFile.withPath [] cs).trimRoot := by
    intro cs
    rw [ofFileRoot]
    split <;> rfl
  cases cs with
  | nil => simp [ofFile, isSlash, root]
  | cons second after =>
    have noSlash : Url.isSlash second = false := by simpa using single second rfl
    simp [ofFile, isSlash, noSlash, root]

/-- The slash at the end of what stands after a scheme is the second one of the two before a
host. -/
def OpensHost (cs : List Char) : Prop :=
  ∃ slash, isSlash slash ∧ cs = [slash, '/']

/-- A plain name does not start with a slash. -/
theorem IsPlain.not_isSlash (plain : IsPlain name) : ∀ c ∈ name.toList.head?, ¬ isSlash c := by
  -- This is checked on the plain characters.
  intro c first
  have noSlash := of_isPlain (fun c => !isSlash c) (by decide)
    (plain c (List.mem_of_mem_head? first))
  simpa using noSlash

/-- Without a slash at the head of its text, a file is on no host either. -/
theorem ofFile_of_not_isSlash {c : Char} (noSlash : ¬ isSlash c) (rest : List Char) :
    ofFile none (c :: rest) = .ok (bareFile.withPath [] (c :: rest)).trimRoot := by
  -- The first character decides.
  simp [ofFile, noSlash]

/-- After two slashes, a file may be on a host. -/
theorem ofFile_of_slashes {first second : Char} (slash : isSlash first) (again : isSlash second)
    (after : List Char) : ofFile none (first :: second :: after) = ofFileAuthority after := by
  -- The first two characters decide.
  simp [ofFile, slash, again]

/-- A special scheme needs a host. -/
theorem ofAuthority_nil_of_special {scheme : String} (special : isSpecial scheme) :
    ofAuthority scheme [] = .error .emptyHost := by
  -- The reading of an empty text is computed.
  unfold ofAuthority
  simp only [special]
  rfl

namespace Reads

/-- A name goes on with the URL of a file, if the text does not end where a host may begin. -/
theorem ofFile (plain : IsPlain name) {cs : List Char} (starts : StartsSegment cs) (some : cs ≠ [])
    (noHost : ¬ OpensHost cs) : Reads name (ofFile none cs) (ofFile none (cs ++ name.toList)) := by
  -- By the slashes that the text starts with.
  obtain ⟨first, rest, rfl⟩ := List.exists_cons_of_ne_nil some
  have startsRest := starts.of_suffix (List.suffix_cons first rest)
  by_cases slash : isSlash first
  · cases rest with
    | nil =>
      rw [List.cons_append, List.nil_append, ofFile_cons slash [] nofun,
        ofFile_cons slash _ plain.not_isSlash]
      exact .of_continues (Continues.withPath plain _ [] startsRest).trimRoot
    | cons second after =>
      by_cases again : isSlash second
      -- The second slash is not the end of the text, as that would open a host.
      · have more : after ≠ [] := by
          rintro rfl
          obtain rfl : second = '/' := startsRest second rfl
          exact noHost ⟨first, slash, rfl⟩
        rw [List.cons_append, List.cons_append, ofFile_of_slashes slash again,
          ofFile_of_slashes slash again]
        exact ofFileAuthority plain (startsRest.of_suffix (List.suffix_cons second after)) more
      · have single : ∀ rest : List Char, ∀ c ∈ (second :: rest).head?, ¬ isSlash c := by
          rintro rest _ ⟨⟩
          exact again
        rw [List.cons_append, ofFile_cons slash _ (single after), List.cons_append,
          ofFile_cons slash _ (single _), ← List.cons_append]
        exact .of_continues (Continues.withPath plain _ [] startsRest).trimRoot
  · rw [List.cons_append, ofFile_of_not_isSlash slash, ofFile_of_not_isSlash slash,
      ← List.cons_append]
    exact .of_continues (Continues.withPath plain _ [] starts).trimRoot

/-- A name goes on with a URL of any scheme, if the text does not end where a host may begin. -/
theorem ofScheme (plain : IsPlain name) (scheme : String) {cs : List Char}
    (starts : StartsSegment cs) (some : cs ≠ []) (noHost : ¬ OpensHost cs) :
    Reads name (ofScheme none scheme cs) (ofScheme none scheme (cs ++ name.toList)) := by
  -- By the kind of the scheme, and by the slashes after it.
  unfold Url.ofScheme
  split
  · exact ofFile plain starts some noHost
  · split
    · next special =>
      by_cases slashes : cs.dropWhile isSlash = []
      · -- Nothing is left for the host, which no special URL is without.
        rw [slashes]
        exact of_fault (ofAuthority_nil_of_special special)
      · rw [dropWhile_append_of_cut slashes]
        exact ofAuthority plain scheme (starts.of_suffix (List.dropWhile_suffix isSlash)) slashes
    · split
      · next rest =>
        have more : rest ≠ [] := by
          rintro rfl
          exact noHost ⟨'/', rfl, rfl⟩
        exact ofAuthority plain scheme (starts.of_suffix ⟨['/', '/'], rfl⟩) more
      · next other =>
        split
        · next rest same =>
          -- Either both slashes are in the text already, or the name starts with one of them.
          match cs, some with
          | [first], _ =>
            have named : name.toList = '/' :: rest := (List.cons.inj same).2
            have slash : '/' ∈ name.toList.head? := by
              rw [named]
              rfl
            exact absurd rfl (plain.not_isSlash '/' slash)
          | first :: second :: after, _ =>
            obtain ⟨rfl, rfl, -⟩ : first = '/' ∧ second = '/' ∧ _ := by simpa using same
            exact absurd rfl (other after)
        · exact .of_continues (.withoutHost plain scheme starts some)

end Reads

/-- The characters of a scheme. -/
def inScheme (c : Char) : Bool :=
  c.isAlphanum || c == '+' || c == '-' || c == '.'

/-- A text in which no colon follows the characters of a scheme has none. -/
theorem scheme?_of_no_colon {cs : List Char}
    (noColon : ∀ rest, cs.dropWhile inScheme ≠ ':' :: rest) : scheme? cs = none := by
  -- This is the other branch.
  unfold scheme?
  dsimp only
  split
  · next rest split => exact absurd split (noColon rest)
  · rfl

/-- A scheme ends at a colon. -/
theorem scheme?_of_colon {first : Char} {tail rest : List Char}
    (colon : (first :: tail).dropWhile inScheme = ':' :: rest) :
    scheme? (first :: tail) =
      if first.isAlpha then
        some (Text.lowerAscii (.ofList ((first :: tail).takeWhile inScheme)), rest)
      else none := by
  -- The first character is all that is left to check.
  unfold scheme?
  dsimp only
  change (first :: tail).dropWhile (fun c => c.isAlphanum || c == '+' || c == '-' || c == '.') =
    ':' :: rest at colon
  rw [colon]
  rfl

/-- Whether a text has a scheme, and which one, does not hang on what comes after a slash in it. -/
theorem scheme?_cases (front : List Char) :
    (∀ more, scheme? (front ++ '/' :: more) = none) ∨
      ∃ scheme rest, ∀ more,
        scheme? (front ++ '/' :: more) = some (scheme, rest ++ '/' :: more) := by
  by_cases cut : front.dropWhile inScheme = []
  · -- The slash comes before any colon.
    refine .inl fun more => scheme?_of_no_colon fun rest => ?_
    rw [List.dropWhile_append, cut, List.dropWhile_cons_of_neg (by decide)]
    simp
  -- The characters of a scheme end before the slash, at a colon or not.
  · obtain ⟨c, rest, split, -⟩ := exists_dropWhile_eq_cons cut
    have splitMore : ∀ more,
        (front ++ '/' :: more).dropWhile inScheme = c :: (rest ++ '/' :: more) := by
      intro more
      rw [dropWhile_append_of_cut cut, split, List.cons_append]
    by_cases colon : c = ':'
    · subst colon
      cases front with
      | nil => exact absurd rfl cut
      | cons first tail =>
        have found : ∀ more, scheme? (first :: tail ++ '/' :: more) =
            if first.isAlpha then
              some (Text.lowerAscii (.ofList ((first :: tail).takeWhile inScheme)),
                rest ++ '/' :: more)
            else none := by
          intro more
          rw [← takeWhile_append_of_cut cut ('/' :: more)]
          exact scheme?_of_colon (splitMore more)
        by_cases letter : first.isAlpha
        · simp only [letter, if_true] at found
          exact .inr ⟨_, rest, found⟩
        · simp only [letter] at found
          exact .inl found
    · refine .inl fun more => scheme?_of_no_colon fun rest => ?_
      rw [splitMore]
      simp [colon]

/-- What is left of a text before a slash once the characters that no URL has are passed over. -/
def front (base : String) : List Char :=
  (base.toList.dropWhile (·.toNat ≤ 0x20)).filter fun c => !isDropped c

/-- A text is cleaned in front of a slash and a plain name as it is before them. -/
theorem clean_append (plain : IsPlain name) (base : String) :
    clean (base ++ "/" ++ name) = front base ++ '/' :: name.toList := by
  -- Trimming passes over nothing at the end, and dropping nothing after the base.
  have text : (base ++ "/" ++ name).toList = base.toList ++ '/' :: name.toList := by
    simp
  have head : (base.toList ++ '/' :: name.toList).dropWhile (·.toNat ≤ 0x20) =
      base.toList.dropWhile (·.toNat ≤ 0x20) ++ '/' :: name.toList := by
    rw [List.dropWhile_append, List.dropWhile_cons_of_neg (by decide)]
    split
    · next none => rw [List.isEmpty_iff.mp none, List.nil_append]
    · rfl
  -- Neither the slash nor a plain character is passed over.
  have stays : ∀ c ∈ '/' :: name.toList, (!decide (c.toNat ≤ 0x20) && !isDropped c) = true := by
    intro c inside
    rcases List.mem_cons.mp inside with rfl | there
    · decide
    · exact of_isPlain (fun c => !decide (c.toNat ≤ 0x20) && !isDropped c) (by decide)
        (plain c there)
  have tail : Text.dropTrailing (·.toNat ≤ 0x20)
      (base.toList.dropWhile (·.toNat ≤ 0x20) ++ '/' :: name.toList) =
      base.toList.dropWhile (·.toNat ≤ 0x20) ++ '/' :: name.toList := by
    apply Text.dropTrailing_eq_self
    intro c last
    rw [List.getLast?_append, List.getLast?_cons] at last
    have inside : c ∈ '/' :: name.toList := by
      apply List.mem_of_getLast?
      rw [List.getLast?_cons]
      simpa using last
    have both := stays c inside
    rw [Bool.and_eq_true, Bool.not_eq_true'] at both
    exact both.1
  have kept : ('/' :: name.toList).filter (fun c => !isDropped c) = '/' :: name.toList := by
    rw [List.filter_eq_self]
    intro c inside
    exact (Bool.and_eq_true _ _ ▸ stays c inside).2
  rw [clean, text, Text.dropAround, head, tail, List.filter_append, kept, front]

/-- A text with a scheme is read by itself. -/
theorem ofText_of_scheme? {s scheme : String} {rest : List Char}
    (found : scheme? (clean s) = some (scheme, rest)) :
    ofText none s = ofScheme none scheme rest := by
  -- This is the branch for texts with a scheme.
  unfold ofText
  simp only [found]

/-- A text without a scheme is read relative to another URL only. -/
theorem ofText_of_no_scheme {s : String} (schemeless : scheme? (clean s) = none) :
    ofText none s = .error .relativeWithoutBase := by
  -- This is the branch for texts without a scheme, and there is no URL to be relative to.
  unfold ofText
  simp only [schemeless]

/-- A text with a plain name after a slash at its end is read as the URL that goes on with it,
unless the slash is the second one of the two before a host. -/
theorem Reads.ofText (plain : IsPlain name) (base : String)
    (noHost : ∀ scheme rest,
      scheme? (clean (base ++ "/")) = some (scheme, rest) → ¬ OpensHost rest) :
    Reads name (ofText none (base ++ "/")) (ofText none (base ++ "/" ++ name)) := by
  have here : clean (base ++ "/") = front base ++ ['/'] := by
    -- The text itself goes on with the empty name.
    have empty := clean_append (show IsPlain "" by decide) base
    rwa [String.append_empty] at empty
  have there := clean_append plain base
  rcases scheme?_cases (front base) with schemeless | ⟨scheme, rest, found⟩
  · have schemelessHere := schemeless []
    rw [← here] at schemelessHere
    exact .of_fault (ofText_of_no_scheme schemelessHere)
  · have foundHere := found []
    have foundThere := found name.toList
    rw [← here] at foundHere
    rw [← there] at foundThere
    rw [ofText_of_scheme? foundHere, ofText_of_scheme? foundThere]
    have starts : StartsSegment (rest ++ ['/']) := by
      intro c last
      rw [List.getLast?_concat] at last
      exact (Option.some.inj last).symm
    have reads := ofScheme plain scheme starts (by simp) (noHost scheme _ foundHere)
    rwa [List.append_assoc] at reads

end Reading

/-! ### What is read where a host is opened -/

section Hosts

variable {scheme : String}

/-- A scheme of its own needs no host. -/
theorem ofAuthority_nil (ordinary : isSpecial scheme = false) :
    ofAuthority scheme [] = .ok { scheme, host := some (.name ""), path := .segments [] } := by
  -- The reading of an empty text is computed.
  unfold ofAuthority
  simp only [withRootPath, ordinary]
  rfl

/-- Behind two slashes a name is a host. -/
theorem ofAuthority_lessons (ordinary : isSpecial scheme = false) :
    ofAuthority scheme "lessons".toList =
      .ok { scheme, host := some (.name "lessons"), path := .segments [] } := by
  -- The reading of the name is computed.
  unfold ofAuthority
  simp only [withRootPath, ordinary]
  rfl

/-- A name that is put where a host is opened is taken for the host. -/
theorem host_of_opensHost {cs : List Char} {url : Url} {list : List String} (opens : OpensHost cs)
    (read : ofScheme none scheme cs = .ok url) (path : url.path = .segments list) :
    url.host = some (.name "") ∧ ∃ longer,
      ofScheme none scheme (cs ++ "lessons".toList) = .ok longer ∧
      longer.host = some (.name "lessons") := by
  -- By the kind of the scheme, which decides what two slashes open.
  obtain ⟨slash, isSlash, rfl⟩ := opens
  unfold ofScheme at read ⊢
  by_cases file : scheme = "file"
  · rw [if_pos file, Option.filter_none, ofFile_of_slashes isSlash rfl] at read
    cases read
    rw [if_pos file]
    exact ⟨rfl, _, ofFile_of_slashes isSlash rfl _, rfl⟩
  · rw [if_neg file] at read ⊢
    by_cases special : isSpecial scheme
    · -- No host is left after the slashes, so nothing is read at all.
      rw [if_pos special] at read
      have none : [slash, '/'].dropWhile Url.isSlash = [] := by
        rw [List.dropWhile_cons_of_pos isSlash]
        rfl
      simp only [Option.filter_none, none, ofAuthority_nil_of_special special] at read
      cases read
    · rw [if_neg special] at read ⊢
      have ordinary : isSpecial scheme = false := by simpa using special
      by_cases forward : slash = '/'
      · subst forward
        simp only [ofAuthority_nil ordinary] at read
        cases read
        exact ⟨rfl, _, ofAuthority_lessons ordinary, rfl⟩
      · -- After a backslash, such a URL has no segments.
        obtain rfl : slash = '\\' := by
          simpa [Url.isSlash, forward] using isSlash
        cases read
        cases path

end Hosts

end Url

end SelectorTutorial
