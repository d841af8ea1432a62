import VCable.FallibleState
import VCable.ProtocolRoundTrip
import VCable.SeparatedLists
import VCable.StateFile

/-!
# The state file round-trips

Loading the content that the saved routes are written as gives the same routes.
A content that is cut short may load, but never with an identifier that was
not saved.
-/

namespace VCable

open Std Utf8Text SeparatedLists

/-! ## Encoded lines -/

/-- An encoded request has only printable characters and tabs. -/
theorem Request.encode_characters {request : Request} {character : Char}
    (member : character ∈ request.encode.toList) :
    IsPrintable character ∨ character = '\t' := by
  rw [Request.encode_eq_fields] at member
  rcases mem_intercalate member with tab | ⟨field, fieldMem, inField⟩
  · exact Or.inr (by simpa using tab)
  · exact Or.inl (request.printable_fields field fieldMem character inField)

theorem Request.encode_isAscii {request : Request} :
    ∀ character ∈ request.encode.toList, IsAscii character := by
  intro character member
  rcases Request.encode_characters member with printable | rfl
  · exact isPrintable_isAscii printable
  · decide

/-- The bytes of an encoded request are its characters. -/
theorem Request.bytes_encode (request : Request) :
    bytes request.encode = request.encode.toList.map fun character => character.val.toUInt8 := by
  conv_lhs => rw [← String.ofList_toList (s := request.encode)]
  exact bytes_ofList_of_ascii Request.encode_isAscii

/-- Neither a newline nor a carriage return is in an encoded request. -/
theorem Request.line_bytes {request : Request} {byte : UInt8}
    (member : byte ∈ bytes request.encode) : byte ≠ 10 ∧ byte ≠ 13 := by
  rw [Request.bytes_encode] at member
  obtain ⟨character, characterMem, rfl⟩ := List.mem_map.mp member
  rcases Request.encode_characters characterMem with ⟨above, below⟩ | rfl
  · have value : character.val.toUInt8.toNat = character.toNat := by
      rw [UInt32.toNat_toUInt8, Char.toNat]
      change 32 ≤ character.val.toNat at above
      change character.val.toNat ≤ 126 at below
      omega
    constructor
    · intro newline
      rw [newline] at value
      simp at value
      omega
    · intro carriage
      rw [carriage] at value
      simp at value
      omega
  · decide

theorem SavedRoute.encode_ne_empty (saved : SavedRoute) : saved.request.encode ≠ "" := by
  intro empty
  have decoded := saved.request.decode_encode
  rw [empty] at decoded
  cases decoded

/-! ## Loading what was saved -/

theorem fileLines_ended {lines : List (List UInt8)}
    (free : ∀ line ∈ lines, ∀ byte ∈ line, byte ≠ 10 ∧ byte ≠ 13) :
    fileLines (lines.flatMap (· ++ [10])) = lines := by
  have noNewline : ∀ line ∈ lines, (10 : UInt8) ∉ line :=
    fun line lineMem newline => (free line lineMem 10 newline).1 rfl
  have kept : ∀ line ∈ lines,
      (if line.getLast? = some 13 then line.dropLast else line) = id line := by
    intro line lineMem
    rw [if_neg]
    · rfl
    · intro carriage
      exact (free line lineMem 13 (List.mem_of_getLast? carriage)).2 rfl
  simp only [fileLines, splitOn_flatMap_ended noNewline, List.dropLast_concat,
    List.getLast?_concat]
  rw [List.map_congr_left kept, List.map_id]

theorem loadLines_requests {saved : List SavedRoute} (routes : SavedRoutes) (number : Nat)
    (distinct : (saved.map SavedRoute.id).Nodup)
    (fresh : ∀ one ∈ saved, routes.map[one.id]? = none) :
    ∃ loaded, loadLines routes number (saved.map fun one => bytes one.request.encode) =
        .ok loaded ∧
      loaded.map = routes.map.insertAll SavedRoute.id saved := by
  induction saved generalizing routes number with
  | nil => exact ⟨routes, rfl, rfl⟩
  | cons one rest ih =>
      rw [List.map_cons, List.nodup_cons] at distinct
      have absent : routes.map.contains one.id = false := by
        rw [ExtTreeMap.contains_eq_isSome_getElem?, fresh one (by simp)]
        rfl
      have freshRest : ∀ other ∈ rest, (routes.insert one).map[other.id]? = none := by
        intro other otherMem
        have differs : one.id ≠ other.id := fun same =>
          distinct.1 (same ▸ List.mem_map_of_mem otherMem)
        rw [SavedRoutes.insert, ExtTreeMap.getElem?_insert_of_ne differs]
        exact fresh other (by simp [otherMem])
      obtain ⟨loaded, result, mapEq⟩ := ih (routes.insert one) (number + 1) distinct.2 freshRest
      refine ⟨loaded, ?_, mapEq⟩
      rw [List.map_cons, loadLines, ofBytes_bytes]
      simp only [if_neg one.encode_ne_empty, Request.decode_encode]
      simp only [SavedRoute.request, absent, Bool.false_eq_true, if_false]
      exact result

/-- Loading the content of saved routes gives the same routes. -/
theorem loadRoutes_content (routes : SavedRoutes) :
    loadRoutes (some routes.content) = .ok routes := by
  have lines : fileLines routes.content =
      routes.values.map fun saved => bytes saved.request.encode := by
    have ended : routes.content =
        (routes.values.map fun saved => bytes saved.request.encode).flatMap (· ++ [10]) := by
      rw [SavedRoutes.content, List.flatMap_map]
    rw [ended, fileLines_ended]
    intro line lineMem byte byteMem
    obtain ⟨saved, _, rfl⟩ := List.mem_map.mp lineMem
    exact Request.line_bytes byteMem
  obtain ⟨loaded, result, mapEq⟩ := loadLines_requests .empty 0
    routes.keyed.nodup_keys (by intro one _; exact ExtTreeMap.getElem?_empty)
  rw [loadRoutes, lines]
  refine result.trans (congrArg _ (SavedRoutes.ext ?_))
  rw [mapEq]
  exact routes.keyed.insertAll_valuesInOrder

/-! ## Loading a content that is cut short -/

/-- A text whose bytes start those of an ASCII text starts that text. -/
theorem toList_isPrefix_of_bytes {text whole : String}
    (ascii : ∀ character ∈ whole.toList, IsAscii character)
    (starts : bytes text <+: bytes whole) : text.toList <+: whole.toList := by
  have wholeBytes : bytes whole = whole.toList.map fun character => character.val.toUInt8 := by
    conv_lhs => rw [← String.ofList_toList (s := whole)]
    exact bytes_ofList_of_ascii ascii
  have cut : text = String.ofList (whole.toList.take (bytes text).length) := by
    apply bytes_injective
    rw [bytes_ofList_of_ascii fun character member => ascii character (List.mem_of_mem_take member),
      List.map_take, ← wholeBytes]
    exact List.prefix_iff_eq_take.mp starts
  rw [cut, String.toList_ofList]
  exact List.take_prefix _ _

theorem decode_eq_connect {text id source sink : String} {gainMillidb : Int32}
    {matrixMillionths : List Int32}
    (decoded : Request.decode text = .ok (.connect id source sink gainMillidb matrixMillionths)) :
    ∃ idField, unescape idField = .ok id ∧ (split '\t' text)[1]? = some idField ∧
      (split '\t' text).length = 6 := by
  unfold Request.decode at decoded
  split at decoded
  case h_6 idField sourceField sinkField gainField matrixField fields =>
    simp only [bind_eq_ok_iff, pure, Except.pure, Except.ok.injEq, Request.connect.injEq] at decoded
    obtain ⟨_, unescaped, _, _, _, _, _, _, _, _, rfl, _⟩ := decoded
    rw [fields]
    exact ⟨idField, unescaped, rfl, rfl⟩
  all_goals simp [bind_eq_ok_iff, pure, Except.pure] at decoded

/-- A line that starts the line of a saved route, and still is a route, is one
with the same identifier. -/
theorem id_eq_of_line_prefix {text id source sink : String} {gainMillidb : Int32}
    {matrixMillionths : List Int32} {saved : SavedRoute}
    (starts : bytes text <+: bytes saved.request.encode)
    (decoded : Request.decode text = .ok (.connect id source sink gainMillidb matrixMillionths)) :
    id = saved.id := by
  have whole : split '\t' saved.request.encode = saved.request.fields := by
    rw [Request.encode_eq_fields, split_tab_intercalate (by simp [SavedRoute.request,
      Request.fields]) saved.request.printable_fields]
  obtain ⟨idField, unescaped, second, count⟩ := decode_eq_connect decoded
  obtain ⟨complete, last, lastWhole, rest, pieces, wholePieces, _⟩ :=
    @splitOn_of_isPrefix _ _ '\t' _ _
      (toList_isPrefix_of_bytes Request.encode_isAscii starts)
  have long : 1 < complete.length := by
    rw [split, pieces] at count
    simp at count
    omega
  have sameField : (split '\t' text)[1]? = (split '\t' saved.request.encode)[1]? := by
    rw [split, split, pieces, wholePieces, List.getElem?_map, List.getElem?_map,
      List.getElem?_append_left long, List.getElem?_append_left long]
  rw [whole, second] at sameField
  have field : idField = escape saved.id := Option.some.inj sameField
  rw [field, unescape_escape] at unescaped
  exact (Except.ok.inj unescaped).symm

/-- Loading lines that are no route with the identifier finds none. -/
theorem loadLines_lacks {lines : List (List UInt8)} {routes loaded : SavedRoutes} {number : Nat}
    {id : String} (result : loadLines routes number lines = .ok loaded)
    (absent : routes.map[id]? = none)
    (others : ∀ line ∈ lines, ∀ text source sink gainMillidb matrixMillionths,
      ofBytes line = some text →
        Request.decode text ≠ .ok (.connect id source sink gainMillidb matrixMillionths)) :
    loaded.map[id]? = none := by
  induction lines generalizing routes number with
  | nil =>
      cases result
      exact absent
  | cons line lines ih =>
      have othersRest := fun other otherMem => others other (List.mem_cons_of_mem line otherMem)
      unfold loadLines at result
      split at result
      · cases result
      rename_i text isText
      split at result
      · exact ih result absent othersRest
      split at result
      · cases result
      · rename_i lineId source sink gainMillidb matrixMillionths decoded
        split at result
        · cases result
        · refine ih result ?_ othersRest
          have differs : lineId ≠ id := by
            rintro rfl
            exact others line (by simp) text source sink gainMillidb matrixMillionths isText decoded
          rw [SavedRoutes.insert, ExtTreeMap.getElem?_insert_of_ne differs]
          exact absent
      · cases result

theorem mem_fileLines {content line : List UInt8} (member : line ∈ fileLines content) :
    ∃ piece ∈ content.splitOn 10, line <+: piece := by
  have ended : ∀ line ∈ (content.splitOn 10).dropLast.map fun line =>
      if line.getLast? = some 13 then line.dropLast else line,
      ∃ piece ∈ content.splitOn 10, line <+: piece := by
    intro line lineMem
    obtain ⟨piece, pieceMem, rfl⟩ := List.mem_map.mp lineMem
    refine ⟨piece, List.dropLast_subset _ pieceMem, ?_⟩
    split_ifs
    · exact List.dropLast_prefix piece
    · exact List.prefix_refl piece
  unfold fileLines at member
  simp only at member
  split at member
  · exact ended line member
  · exact ended line member
  · rename_i last _ isLast
    rcases List.mem_append.mp member with before | atEnd
    · exact ended line before
    · rw [List.mem_singleton.mp atEnd]
      exact ⟨last, List.mem_of_getLast? isLast, List.prefix_refl last⟩

/-- What is left of the saved routes in a file that is cut short has no route
that was not saved. -/
theorem loadRoutes_content_prefix {routes loaded : SavedRoutes} {content : List UInt8} {id : String}
    (starts : content <+: routes.content) (absent : routes.map[id]? = none)
    (result : loadRoutes (some content) = .ok loaded) : loaded.map[id]? = none := by
  refine loadLines_lacks result ExtTreeMap.getElem?_empty ?_
  intro line lineMem text source sink gainMillidb matrixMillionths isText decoded
  obtain ⟨piece, pieceMem, lineStarts⟩ := mem_fileLines lineMem
  obtain ⟨wholePiece, wholeMem, pieceStarts⟩ := exists_piece_of_prefix starts pieceMem
  have ended : routes.content =
      (routes.values.map fun saved => bytes saved.request.encode).flatMap (· ++ [10]) := by
    rw [SavedRoutes.content, List.flatMap_map]
  rw [ended, splitOn_flatMap_ended] at wholeMem
  · rw [← ofBytes_eq_some_iff.mp isText] at lineStarts
    rcases List.mem_append.mp wholeMem with savedLine | rest
    · obtain ⟨saved, member, rfl⟩ := List.mem_map.mp savedLine
      have sameId := id_eq_of_line_prefix (lineStarts.trans pieceStarts) decoded
      have found := routes.keyed.mem_iff.mp member
      rw [← sameId, absent] at found
      cases found
    · rw [List.mem_singleton.mp rest] at pieceStarts
      have emptyText : bytes text = [] := by
        simpa using (lineStarts.trans pieceStarts)
      obtain rfl : text = "" := bytes_injective emptyText
      cases decoded
  · intro line lineMem newline
    obtain ⟨saved, _, rfl⟩ := List.mem_map.mp lineMem
    exact (Request.line_bytes newline).1 rfl

end VCable
