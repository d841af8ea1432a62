import VCable.DaemonServing

/-!
# The sizes of replies

How many bytes a reply is encoded to, in terms of the texts in it.  Almost all
errors of the daemon have short texts, whatever the names in its graph are.
-/

namespace VCable

open Utf8Text

/-! ## Escaped texts -/

/-- The number of bytes that a text is escaped to. -/
def escapedSize (value : String) : Nat :=
  (bytes (escape value)).length

theorem escapedSize_append (first second : String) :
    escapedSize (first ++ second) = escapedSize first + escapedSize second := by
  rw [escapedSize, bytes_escape, bytes_append, List.flatMap_append, List.length_append,
    ← bytes_escape, ← bytes_escape]
  rfl

theorem length_escapedBytes_le (byte : UInt8) : (escapedBytes byte).length ≤ 3 := by
  rw [escapedBytes, List.length_map, escapeByte]
  split
  · simp
  · exact Nat.le_refl 3

theorem escapedSize_le (value : String) : escapedSize value ≤ 3 * value.utf8ByteSize := by
  rw [escapedSize, bytes_escape, ← length_bytes]
  induction bytes value with
  | nil => exact Nat.le_refl 0
  | cons byte rest ih =>
      have first := length_escapedBytes_le byte
      rw [List.flatMap_cons, List.length_append, List.length_cons]
      omega

/-- Each of the joined texts comes with a separator, except the last. -/
theorem escapedSize_intercalate {separator : String} {texts : List String} (some : texts ≠ []) :
    escapedSize (separator.intercalate texts) + escapedSize separator =
      (texts.map fun text => escapedSize text + escapedSize separator).sum := by
  induction texts with
  | nil => exact absurd rfl some
  | cons text texts ih =>
      cases texts with
      | nil => simp
      | cons next texts =>
          rw [String.intercalate_cons_cons, escapedSize_append, escapedSize_append, List.map_cons,
            List.sum_cons, ← ih (List.cons_ne_nil _ _)]
          omega

/-! ## Encoded replies -/

theorem length_ok (message : String) :
    (bytes (Message.encode (Response.ok message))).length = 3 + escapedSize message := by
  have encoded : Message.encode (Response.ok message) = "ok\t" ++ escape message := by
    simp [Message.encode, Response.encode]
  rw [encoded, bytes_append, List.length_append]
  rfl

theorem length_error (code message : String) :
    (bytes (Message.encode (Response.error code message))).length =
      7 + escapedSize code + escapedSize message := by
  have encoded : Message.encode (Response.error code message) =
      "error\t" ++ escape code ++ "\t" ++ escape message := by
    simp [Message.encode, Response.encode, String.append_assoc]
  rw [encoded, bytes_append, bytes_append, bytes_append]
  simp only [List.length_append, escapedSize]
  rw [show (bytes "error\t").length = 6 by decide, show (bytes "\t").length = 1 by decide]
  omega

theorem fits_ok_iff {message : String} :
    Fits (Response.ok message) ↔ 3 + escapedSize message ≤ maxMessageBytes := by
  rw [Fits, length_ok]

theorem fits_error_iff {code message : String} :
    Fits (Response.error code message) ↔
      7 + escapedSize code + escapedSize message ≤ maxMessageBytes := by
  rw [Fits, length_error]

/-! ## The status -/

section Status

variable {F : Type} [SinglePrecision F]

/-- The encoded size of an endpoint's line, with the separator of the lines. -/
def endpointLineSize (endpoint : EndpointDescriptor) : Nat :=
  30 + escapedSize endpoint.id.value + escapedSize endpoint.direction.debug +
    escapedSize (toString endpoint.channels) + escapedSize (toString endpoint.sampleRate.toNat) +
      escapedSize endpoint.clockDomain.value

def routeLineSize (route : Route F) : Nat :=
  20 + escapedSize route.id.value + escapedSize route.source.value +
    escapedSize route.sink.value + escapedSize (SinglePrecision.fixed 6 route.gain)

def metricsLineSize (metrics : RouterMetrics) : Nat :=
  58 + escapedSize (toString metrics.underruns.toNat) +
    escapedSize (toString metrics.overruns.toNat) +
      escapedSize (toString metrics.formatErrors.toNat)

/-- The encoded size of the status, or nothing if it has no lines. -/
def statusSize (metrics : RouterMetrics) (world : World F) : Nat :=
  (world.graph.endpoints.valuesInOrder.map endpointLineSize).sum +
    (world.graph.routes.valuesInOrder.map routeLineSize).sum +
      if world.router.isSome then metricsLineSize metrics else 0

/-- The size of a line of tab-separated fields, with the separator of the lines. -/
theorem escapedSize_line {fields : List String} (some : fields ≠ []) :
    escapedSize ("\t".intercalate fields) + escapedSize "\n" =
      (fields.map fun field => escapedSize field + 3).sum := by
  have tab : escapedSize "\t" = 3 := by decide
  have newline : escapedSize "\n" = 3 := by decide
  have joined := @escapedSize_intercalate "\t" _ some
  rw [newline, ← tab]
  exact joined

theorem endpointLineSize_eq (endpoint : EndpointDescriptor) :
    escapedSize ("\t".intercalate ["endpoint", endpoint.id.value, endpoint.direction.debug,
      toString endpoint.channels ++ "ch", toString endpoint.sampleRate.toNat ++ "Hz",
      endpoint.clockDomain.value]) + escapedSize "\n" = endpointLineSize endpoint := by
  have label : escapedSize "endpoint" = 8 := by decide
  have ch : escapedSize "ch" = 2 := by decide
  have hz : escapedSize "Hz" = 2 := by decide
  rw [escapedSize_line (List.cons_ne_nil _ _), endpointLineSize]
  simp only [List.map_cons, List.map_nil, List.sum_cons, List.sum_nil, escapedSize_append, label,
    ch, hz]
  omega

theorem routeLineSize_eq (route : Route F) :
    escapedSize ("\t".intercalate ["route", route.id.value, route.source.value, route.sink.value,
      SinglePrecision.fixed 6 route.gain]) + escapedSize "\n" = routeLineSize route := by
  have label : escapedSize "route" = 5 := by decide
  rw [escapedSize_line (List.cons_ne_nil _ _), routeLineSize]
  simp only [List.map_cons, List.map_nil, List.sum_cons, List.sum_nil, label]
  omega

theorem metricsLineSize_eq (metrics : RouterMetrics) :
    escapedSize ("\t".intercalate ["metrics", "underruns=" ++ toString metrics.underruns.toNat,
      "overruns=" ++ toString metrics.overruns.toNat,
      "format_errors=" ++ toString metrics.formatErrors.toNat]) + escapedSize "\n" =
        metricsLineSize metrics := by
  have label : escapedSize "metrics" = 7 := by decide
  have underruns : escapedSize "underruns=" = 12 := by decide
  have overruns : escapedSize "overruns=" = 11 := by decide
  have formatErrors : escapedSize "format_errors=" = 16 := by decide
  rw [escapedSize_line (List.cons_ne_nil _ _), metricsLineSize]
  simp only [List.map_cons, List.map_nil, List.sum_cons, List.sum_nil, escapedSize_append, label,
    underruns, overruns, formatErrors]
  omega

/-- The lines of the status. -/
def statusLines (metrics : RouterMetrics) (world : World F) : List String :=
  (world.graph.endpoints.valuesInOrder.map fun endpoint =>
    "\t".intercalate ["endpoint", endpoint.id.value, endpoint.direction.debug,
      toString endpoint.channels ++ "ch", toString endpoint.sampleRate.toNat ++ "Hz",
      endpoint.clockDomain.value]) ++
  (world.graph.routes.valuesInOrder.map fun route =>
    "\t".intercalate ["route", route.id.value, route.source.value, route.sink.value,
      SinglePrecision.fixed 6 route.gain]) ++
  if world.router.isSome then
    ["\t".intercalate ["metrics", "underruns=" ++ toString metrics.underruns.toNat,
      "overruns=" ++ toString metrics.overruns.toNat,
      "format_errors=" ++ toString metrics.formatErrors.toNat]]
  else []

theorem status_eq (metrics : RouterMetrics) (world : World F) :
    status metrics world = "\n".intercalate (statusLines metrics world) :=
  rfl

theorem statusSize_eq (metrics : RouterMetrics) (world : World F) :
    ((statusLines metrics world).map fun line => escapedSize line + escapedSize "\n").sum =
      statusSize metrics world := by
  have endpoints : (world.graph.endpoints.valuesInOrder.map fun endpoint => _) = _ :=
    List.map_congr_left fun endpoint _ => endpointLineSize_eq endpoint
  have routes : (world.graph.routes.valuesInOrder.map fun route => _) = _ :=
    List.map_congr_left fun route _ => routeLineSize_eq route
  rw [statusLines, List.map_append, List.map_append, List.sum_append, List.sum_append,
    List.map_map, List.map_map, statusSize, ← endpoints, ← routes]
  congr 1
  split
  · rw [List.map_singleton, List.sum_singleton, metricsLineSize_eq]
  · rfl

theorem fits_status_iff {metrics : RouterMetrics} {world : World F} :
    Fits (Response.ok (status metrics world)) ↔ statusSize metrics world ≤ maxMessageBytes := by
  have newline : escapedSize "\n" = 3 := by decide
  rw [fits_ok_iff, status_eq, ← statusSize_eq]
  by_cases none : statusLines metrics world = []
  · rw [none]
    exact iff_of_true (by decide) (by decide)
  · rw [← escapedSize_intercalate none, newline, Nat.add_comm]

end Status

/-! ## Brief texts -/

/-- The text has at most the given number of bytes. -/
def TextWithin (limit : Nat) (text : String) : Prop :=
  text.utf8ByteSize ≤ limit

instance (limit : Nat) (text : String) : Decidable (TextWithin limit text) :=
  inferInstanceAs (Decidable (_ ≤ _))

theorem TextWithin.mono {a b : Nat} {text : String} (within : TextWithin a text) (le : a ≤ b) :
    TextWithin b text :=
  Nat.le_trans within le

theorem TextWithin.append {a b : Nat} {first second : String} (one : TextWithin a first)
    (other : TextWithin b second) : TextWithin (a + b) (first ++ second) := by
  rw [TextWithin, String.utf8ByteSize_append]
  exact Nat.add_le_add one other

theorem isValidIdentifier_within {value : String} (valid : isValidIdentifier value = true) :
    TextWithin 255 value := by
  simp only [isValidIdentifier, Bool.not_eq_true', Bool.or_eq_false_iff, decide_eq_false_iff_not]
    at valid
  exact not_lt.mp valid.1.2

theorem StringId.within {kind : IdKind} (id : StringId kind) : TextWithin 255 id.value :=
  isValidIdentifier_within id.valid

/-- A number that a `usize` holds has at most twenty digits. -/
theorem toString_within {number : Nat} (small : number < usizeBound) :
    TextWithin 20 (toString number) := by
  have digits : number.repr.length ≤ 20 :=
    (Nat.length_repr_le_iff (by decide)).mpr (small.trans (by decide))
  have ascii : ∀ character ∈ (toString number).toList, IsAscii character :=
    fun character member => isPrintable_isAscii (printable_natToString number character member)
  rw [TextWithin, ← length_bytes, ← String.ofList_toList (s := toString number),
    bytes_ofList_of_ascii ascii, List.length_map, String.length_toList]
  exact digits

/-- It is no longer than a name. -/
theorem toString_within_name {number : Nat} (small : number < usizeBound) :
    TextWithin 255 (toString number) :=
  (toString_within small).mono (by decide)

/-! ## Brief errors -/

/-- A text that does not depend on any long name. -/
def GraphError.Brief (error : GraphError) : Prop :=
  TextWithin 1000 error.text

def MatrixError.Brief (error : MatrixError) : Prop :=
  TextWithin 1000 error.text

def DaemonError.Brief (error : DaemonError) : Prop :=
  TextWithin 1000 error.text

/-- A label with a name that is an identifier. -/
theorem within_labelled {label name : String} (short : TextWithin 100 label)
    (within : TextWithin 255 name) : TextWithin 1000 (label ++ name) :=
  (short.append within).mono (by decide)

/-- Two labels, each with a name that is an identifier. -/
theorem within_labelled_twice {first second one other : String} (shortFirst : TextWithin 100 first)
    (withinOne : TextWithin 255 one) (shortSecond : TextWithin 100 second)
    (withinOther : TextWithin 255 other) :
    TextWithin 800 (first ++ one ++ second ++ other) :=
  (((shortFirst.append withinOne).append shortSecond).append withinOther).mono (by decide)

/-- The names of a graph's endpoints are identifiers or UIDs of devices, and
their channel counts are machine numbers. -/
def EndpointsBounded (endpoints : Std.ExtTreeMap EndpointId EndpointDescriptor) : Prop :=
  ∀ (id : EndpointId) (endpoint : EndpointDescriptor), endpoints[id]? = some endpoint →
    TextWithin 255 endpoint.node ∧ endpoint.channels < usizeBound

theorem addRoute_brief {F : Type} [SinglePrecision F] {graph : RoutingGraph F} {route : Route F}
    {failure : GraphError}
    (bounded : EndpointsBounded graph.endpoints)
    (inputs : route.matrix.inputChannels < usizeBound)
    (outputs : route.matrix.outputChannels < usizeBound)
    (failed : graph.addRoute route = .error failure) : failure.Brief := by
  unfold RoutingGraph.addRoute at failed
  split at failed
  · cases failed
    exact within_labelled (by decide) route.id.within
  split at failed
  · cases failed
    exact within_labelled (by decide) route.source.within
  rename_i source sourceFound
  split at failed
  · cases failed
    exact within_labelled (by decide) route.sink.within
  rename_i sink sinkFound
  have sourceBounded := bounded _ _ sourceFound
  have sinkBounded := bounded _ _ sinkFound
  split_ifs at failed
  · cases failed
    exact within_labelled (by decide) source.id.within
  · cases failed
    exact within_labelled (by decide) sink.id.within
  · cases failed
    exact (within_labelled_twice (by decide) (toString_within_name inputs) (by decide)
      (toString_within_name sourceBounded.2)).mono (by decide)
  · cases failed
    exact (within_labelled_twice (by decide) (toString_within_name outputs) (by decide)
      (toString_within_name sinkBounded.2)).mono (by decide)
  · cases failed
    change TextWithin 1000 "route gain must be finite"
    decide
  · cases failed
    have nodes : TextWithin 800 ("route from " ++ source.node ++ " to " ++ sink.node) :=
      within_labelled_twice (by decide) sourceBounded.1 (by decide) sinkBounded.1
    have ended : TextWithin 100 " creates a cycle" := by decide
    exact TextWithin.mono (nodes.append ended) (by decide)

theorem matrix_brief {F : Type} [SinglePrecision F] {outputs inputs : Nat} {coefficients : List F}
    {failure : MatrixError}
    (short : outputs * inputs < usizeBound → coefficients.length < usizeBound)
    (failed : ChannelMatrix.new outputs inputs coefficients = .error failure) : failure.Brief := by
  unfold ChannelMatrix.new at failed
  split at failed
  · cases failed
    change TextWithin 1000 "channel counts must be greater than zero"
    decide
  split at failed
  · cases failed
    change TextWithin 1000 "frame count overflows the audio buffer length"
    decide
  rename_i expected product
  have small : outputs * inputs < usizeBound ∧ outputs * inputs = expected := by
    unfold checkedMul at product
    split_ifs at product with small
    exact ⟨small, Option.some.inj product⟩
  split at failed
  · split at failed
    · rename_i index found
      cases failed
      have below : index < usizeBound :=
        (List.findIdx?_eq_some_iff_getElem.mp found).1.trans (short small.1)
      have place : TextWithin 355 ("coefficient " ++ toString index) :=
        TextWithin.append (a := 100) (by decide) (toString_within_name below)
      have ended : TextWithin 100 " is not finite" := by decide
      exact TextWithin.mono (place.append ended) (by decide)
    · cases failed
  · cases failed
    have counted : expected < usizeBound := small.2 ▸ small.1
    exact TextWithin.mono (within_labelled_twice (by decide) (toString_within_name counted)
      (by decide) (toString_within_name (short small.1))) (by decide)

theorem routeMatrix_brief {F : Type} [SinglePrecision F] {inputs outputs : Nat}
    {matrixMillionths : List Int32} {failure : DaemonError} (inputsSmall : inputs < usizeBound)
    (outputsSmall : outputs < usizeBound) (short : matrixMillionths.length < usizeBound)
    (failed : routeMatrix (F := F) inputs outputs matrixMillionths = .error failure) :
    failure.Brief := by
  unfold routeMatrix at failed
  split_ifs at failed
  · cases failed
    have sizes : TextWithin 800
        ("an explicit " ++ toString outputs ++ "x" ++ toString inputs) :=
      within_labelled_twice (by decide) (toString_within_name outputsSmall) (by decide)
        (toString_within_name inputsSmall)
    have ended : TextWithin 100 " channel matrix is required" := by decide
    exact TextWithin.mono (sizes.append ended) (by decide)
  · obtain ⟨cause, stuck, rfl⟩ := mapError_eq_error_iff.mp failed
    unfold ChannelMatrix.identity at stuck
    split_ifs at stuck
    · cases stuck
      change TextWithin 1000 "channel counts must be greater than zero"
      decide
    · refine matrix_brief (fun small => ?_) stuck
      have length : ∀ (channels : List Nat) (written : List F),
          (channels.foldl (fun written channel =>
            written.set (channel * inputs + channel) ((1 : Nat) : F)) written).length =
              written.length := by
        intro channels
        induction channels with
        | nil => exact fun _ => rfl
        | cons channel channels ih => exact fun written => (ih _).trans List.length_set
      rw [length, List.length_replicate]
      exact small
  · obtain ⟨cause, stuck, rfl⟩ := mapError_eq_error_iff.mp failed
    refine matrix_brief (fun _ => ?_) stuck
    rw [List.length_map]
    exact short

/-! ## Errors of the methods -/

section Methods

variable {F : Type} [SinglePrecision F]

theorem StringId.new_eq_error_iff {kind : IdKind} {value : String} {failure : GraphError} :
    (StringId.new value : Except GraphError (StringId kind)) = .error failure ↔
      isValidIdentifier value = false ∧ failure = .invalidIdentifier value := by
  unfold StringId.new
  by_cases valid : isValidIdentifier value = true
  · simp [valid]
  · simp [valid, eq_comm]

/-- The first name of a saved route that is no identifier, if building the route
gets to it. -/
inductive RejectedName (F : Type) [SinglePrecision F]
    (endpoints : Std.ExtTreeMap EndpointId EndpointDescriptor) (saved : SavedRoute) :
    String → Prop
  | source (invalid : isValidIdentifier saved.source = false) :
      RejectedName F endpoints saved saved.source
  | sink (valid : isValidIdentifier saved.source = true)
      (invalid : isValidIdentifier saved.sink = false) :
      RejectedName F endpoints saved saved.sink
  | id {sourceId sinkId : EndpointId} {source sink : EndpointDescriptor} {matrix : ChannelMatrix F}
      (source_eq : sourceId.value = saved.source) (sink_eq : sinkId.value = saved.sink)
      (source_found : endpoints[sourceId]? = some source)
      (sink_found : endpoints[sinkId]? = some sink)
      (converts : routeMatrix source.channels sink.channels saved.matrixMillionths = .ok matrix)
      (invalid : isValidIdentifier saved.id = false) :
      RejectedName F endpoints saved saved.id

theorem buildRoute_of_rejected {endpoints : Std.ExtTreeMap EndpointId EndpointDescriptor}
    {saved : SavedRoute} {name : String} (rejected : RejectedName F endpoints saved name) :
    buildRoute (F := F) endpoints saved = .error (.graph (.invalidIdentifier name)) := by
  have refused : ∀ {kind : IdKind} {value : String}, isValidIdentifier value = false →
      (StringId.new value : Except GraphError (StringId kind)) =
        .error (.invalidIdentifier value) :=
    fun invalid => StringId.new_eq_error_iff.mpr ⟨invalid, rfl⟩
  cases rejected with
  | source invalid =>
      simp only [buildRoute, EndpointId.new, refused invalid, Except.mapError]
      rfl
  | sink valid invalid =>
      have accepted : (StringId.new saved.source : Except GraphError EndpointId) =
          .ok ⟨saved.source, valid⟩ := StringId.new_eq_ok_iff.mpr rfl
      simp only [buildRoute, EndpointId.new, accepted, refused invalid, Except.mapError]
      rfl
  | @id sourceId sinkId source sink matrix sourceEq sinkEq sourceFound sinkFound converts invalid =>
      have first := StringId.new_eq_ok_iff.mpr sourceEq
      have second := StringId.new_eq_ok_iff.mpr sinkEq
      simp only [buildRoute, EndpointId.new, RouteId.new, first, second, refused invalid,
        Except.mapError, okOr]
      change (okOr _ endpoints[sourceId]?).bind _ = _
      simp only [sourceFound, okOr, Except.bind]
      change (okOr _ endpoints[sinkId]?).bind _ = _
      simp only [sinkFound, okOr, Except.bind]
      change (routeMatrix _ _ _).bind _ = _
      simp only [converts, Except.bind]
      rfl

/-- The errors of building a route are brief, unless one of its names is
rejected. -/
theorem buildRoute_error_cases {endpoints : Std.ExtTreeMap EndpointId EndpointDescriptor}
    {saved : SavedRoute} {failure : DaemonError} (bounded : EndpointsBounded endpoints)
    (short : saved.matrixMillionths.length < usizeBound)
    (failed : buildRoute (F := F) endpoints saved = .error failure) :
    failure.Brief ∨
      ∃ name, RejectedName F endpoints saved name ∧
        failure = .graph (.invalidIdentifier name) := by
  unfold buildRoute at failed
  rcases bind_eq_error_iff.mp failed with stuck | ⟨sourceId, sourceNew, failed⟩
  · obtain ⟨cause, refused, rfl⟩ := mapError_eq_error_iff.mp stuck
    obtain ⟨invalid, rfl⟩ := StringId.new_eq_error_iff.mp refused
    exact Or.inr ⟨_, .source invalid, rfl⟩
  have sourceEq : sourceId.value = saved.source :=
    StringId.new_eq_ok_iff.mp (mapError_eq_ok_iff.mp sourceNew)
  rcases bind_eq_error_iff.mp failed with stuck | ⟨sinkId, sinkNew, failed⟩
  · obtain ⟨cause, refused, rfl⟩ := mapError_eq_error_iff.mp stuck
    obtain ⟨invalid, rfl⟩ := StringId.new_eq_error_iff.mp refused
    exact Or.inr ⟨_, .sink (sourceEq ▸ sourceId.valid) invalid, rfl⟩
  have sinkEq : sinkId.value = saved.sink :=
    StringId.new_eq_ok_iff.mp (mapError_eq_ok_iff.mp sinkNew)
  rcases bind_eq_error_iff.mp failed with stuck | ⟨source, sourceFound, failed⟩
  · obtain ⟨_, rfl⟩ := okOr_eq_error_iff.mp stuck
    exact Or.inl (within_labelled (by decide) (sourceEq ▸ sourceId.within))
  rw [okOr_eq_ok_iff] at sourceFound
  rcases bind_eq_error_iff.mp failed with stuck | ⟨sink, sinkFound, failed⟩
  · obtain ⟨_, rfl⟩ := okOr_eq_error_iff.mp stuck
    exact Or.inl (within_labelled (by decide) (sinkEq ▸ sinkId.within))
  rw [okOr_eq_ok_iff] at sinkFound
  rcases bind_eq_error_iff.mp failed with stuck | ⟨matrix, converts, failed⟩
  · exact Or.inl (routeMatrix_brief (bounded _ _ sourceFound).2 (bounded _ _ sinkFound).2 short
      stuck)
  rcases bind_eq_error_iff.mp failed with stuck | ⟨id, idNew, failed⟩
  · obtain ⟨cause, refused, rfl⟩ := mapError_eq_error_iff.mp stuck
    obtain ⟨invalid, rfl⟩ := StringId.new_eq_error_iff.mp refused
    exact Or.inr ⟨_, .id sourceEq sinkEq sourceFound sinkFound converts invalid, rfl⟩
  · cases failed

end Methods

end VCable
