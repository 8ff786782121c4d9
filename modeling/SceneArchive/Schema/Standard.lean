import SceneArchive.Schema.Registry

/-!
# The standard registry

The five kinds of an archive index. A metadata directory owns observations, georeference files
and at most one projection; a projection owns its axes.

* `build_standard`: the registry has no fault.
-/

namespace SceneArchive

namespace Registry

/-- The declarations and wires of the five kinds. -/
def standard : Registry where
  descriptors :=
    [ Descriptor.unique
        { kind := .metadataDirectory
          fields := [.required "date_str" .text, .required "path_str" .text] }
        "date_str",
      Descriptor.belongsTo
        { kind := .observationRecord
          fields :=
            [ .required "batch" .text,
              .required "tarsize" .integer,
              .required "satellite" .text,
              .required "sensorid" .text,
              .optionalDate "acquisitio",
              .required "cloudperce" .float,
              .required "orbitid" .integer,
              .required "scenepath" .integer,
              .required "scenerow" .integer ] }
        "directory" "directory_id",
      Descriptor.belongsToUnique
        { kind := .projectionDefinition
          fields :=
            [ .required "schema" .text,
              .required "type" .text,
              .required "name" .text,
              .required "datum_type" .text,
              .required "datum_name" .text,
              .required "datum_ellipsoid_name" .text,
              .required "datum_ellipsoid_semi_major_axis" .float,
              .required "datum_ellipsoid_inverse_flattening" .float,
              .required "datum_id_authority" .text,
              .required "datum_id_code" .integer,
              .required "coordinate_system_subtype" .text ] }
        "directory" "directory_id",
      Descriptor.belongsTo
        { kind := .axisEntry
          fields :=
            [ .required "name" .text,
              .required "abbreviation" .text,
              .required "direction" .text,
              .required "unit_type" .text,
              .required "unit_name" .text,
              .required "unit_conversion_factor" .float ] }
        "projection" "projection_id",
      Descriptor.belongsTo
        { kind := .georeferenceFile
          fields :=
            [ .required "path" .text,
              .required "jpg" .text,
              .required "scale_x" .float,
              .required "rotation_y" .float,
              .required "rotation_x" .float,
              .required "scale_y" .float,
              .required "upper_left_x" .float,
              .required "upper_left_y" .float ] }
        "directory" "directory_id" ]
  wiring :=
    [ ⟨.observationRecord, .metadataDirectory⟩,
      ⟨.projectionDefinition, .metadataDirectory⟩,
      ⟨.axisEntry, .projectionDefinition⟩,
      ⟨.georeferenceFile, .metadataDirectory⟩ ]

end Registry

/-- The schema of the standard registry. -/
def Schema.standard : Schema := Registry.standard.schema

theorem Registry.build_standard : Registry.standard.build = .ok Schema.standard := by
  rfl

end SceneArchive
