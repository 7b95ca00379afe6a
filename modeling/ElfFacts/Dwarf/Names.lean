import ElfFacts.Text.Quoted

/-!
# Names of DWARF codes

The names of tags, attributes and languages. A code without a name is shown in hexadecimal.
-/
namespace ElfFacts.Dwarf

def tagNames : List (Nat × String) := [
    (0x1, "array_type"), (0x2, "class_type"), (0x3, "entry_point"), (0x4, "enumeration_type"),
    (0x5, "formal_parameter"), (0x8, "imported_declaration"), (0xA, "label"),
    (0xB, "lexical_block"), (0xD, "member"), (0xF, "pointer_type"), (0x10, "reference_type"),
    (0x11, "compile_unit"), (0x12, "string_type"), (0x13, "structure_type"),
    (0x15, "subroutine_type"), (0x16, "typedef"), (0x17, "union_type"),
    (0x18, "unspecified_parameters"), (0x19, "variant"), (0x1A, "common_block"),
    (0x1B, "common_inclusion"), (0x1C, "inheritance"), (0x1D, "inlined_subroutine"),
    (0x1E, "module"), (0x1F, "ptr_to_member_type"), (0x20, "set_type"), (0x21, "subrange_type"),
    (0x22, "with_stmt"), (0x23, "access_declaration"), (0x24, "base_type"), (0x25, "catch_block"),
    (0x26, "const_type"), (0x27, "constant"), (0x28, "enumerator"), (0x29, "file_type"),
    (0x2A, "friend"), (0x2B, "namelist"), (0x2C, "namelist_item"), (0x2D, "packed_type"),
    (0x2E, "subprogram"), (0x2F, "template_type_parameter"), (0x30, "template_value_parameter"),
    (0x31, "thrown_type"), (0x32, "try_block"), (0x33, "variant_part"), (0x34, "variable"),
    (0x35, "volatile_type"), (0x36, "dwarf_procedure"), (0x37, "restrict_type"),
    (0x38, "interface_type"), (0x39, "namespace"), (0x3A, "imported_module"),
    (0x3B, "unspecified_type"), (0x3C, "partial_unit"), (0x3D, "imported_unit"),
    (0x3F, "condition"), (0x40, "shared_type"), (0x41, "type_unit"),
    (0x42, "rvalue_reference_type"), (0x43, "template_alias"), (0x44, "coarray_type"),
    (0x45, "generic_subrange"), (0x46, "dynamic_type"), (0x47, "atomic_type"), (0x48, "call_site"),
    (0x49, "call_site_parameter"), (0x4A, "skeleton_unit"), (0x4B, "immutable_type"),
    (0x4080, "lo_user"), (0x4081, "MIPS_loop"), (0x4090, "HP_array_descriptor"),
    (0x4091, "HP_Bliss_field"), (0x4092, "HP_Bliss_field_set"), (0x4101, "format_label"),
    (0x4102, "function_template"), (0x4103, "class_template"), (0x4104, "GNU_BINCL"),
    (0x4105, "GNU_EINCL"), (0x4106, "GNU_template_template_param"),
    (0x4107, "GNU_template_parameter_pack"), (0x4108, "GNU_formal_parameter_pack"),
    (0x4109, "GNU_call_site"), (0x410A, "GNU_call_site_parameter"), (0x4200, "APPLE_property"),
    (0x4201, "SUN_function_template"), (0x4202, "SUN_class_template"),
    (0x4203, "SUN_struct_template"), (0x4204, "SUN_union_template"),
    (0x4205, "SUN_indirect_inheritance"), (0x4206, "SUN_codeflags"), (0x4207, "SUN_memop_info"),
    (0x4208, "SUN_omp_child_func"), (0x4209, "SUN_rtti_descriptor"), (0x420A, "SUN_dtor_info"),
    (0x420B, "SUN_dtor"), (0x420C, "SUN_f90_interface"), (0x420D, "SUN_fortran_vax_structure"),
    (0x5101, "ALTIUM_circ_type"), (0x5102, "ALTIUM_mwa_circ_type"),
    (0x5103, "ALTIUM_rev_carry_type"), (0x5111, "ALTIUM_rom"), (0x8765, "upc_shared_type"),
    (0x8766, "upc_strict_type"), (0x8767, "upc_relaxed_type"), (0xA000, "PGI_kanji_type"),
    (0xA020, "PGI_interface_block"), (0xB000, "BORLAND_property"),
    (0xB001, "BORLAND_Delphi_string"), (0xB002, "BORLAND_Delphi_dynamic_array"),
    (0xB003, "BORLAND_Delphi_set"), (0xB004, "BORLAND_Delphi_variant"), (0xFFFF, "hi_user")]

def attributeNames : List (Nat × String) := [
    (0x1, "sibling"), (0x2, "location"), (0x3, "name"), (0x9, "ordering"), (0xB, "byte_size"),
    (0xC, "bit_offset"), (0xD, "bit_size"), (0x10, "stmt_list"), (0x11, "low_pc"),
    (0x12, "high_pc"), (0x13, "language"), (0x15, "discr"), (0x16, "discr_value"),
    (0x17, "visibility"), (0x18, "import"), (0x19, "string_length"), (0x1A, "common_reference"),
    (0x1B, "comp_dir"), (0x1C, "const_value"), (0x1D, "containing_type"), (0x1E, "default_value"),
    (0x20, "inline"), (0x21, "is_optional"), (0x22, "lower_bound"), (0x25, "producer"),
    (0x27, "prototyped"), (0x2A, "return_addr"), (0x2C, "start_scope"), (0x2E, "bit_stride"),
    (0x2F, "upper_bound"), (0x31, "abstract_origin"), (0x32, "accessibility"),
    (0x33, "address_class"), (0x34, "artificial"), (0x35, "base_types"),
    (0x36, "calling_convention"), (0x37, "count"), (0x38, "data_member_location"),
    (0x39, "decl_column"), (0x3A, "decl_file"), (0x3B, "decl_line"), (0x3C, "declaration"),
    (0x3D, "discr_list"), (0x3E, "encoding"), (0x3F, "external"), (0x40, "frame_base"),
    (0x41, "friend"), (0x42, "identifier_case"), (0x43, "macro_info"), (0x44, "namelist_item"),
    (0x45, "priority"), (0x46, "segment"), (0x47, "specification"), (0x48, "static_link"),
    (0x49, "type"), (0x4A, "use_location"), (0x4B, "variable_parameter"), (0x4C, "virtuality"),
    (0x4D, "vtable_elem_location"), (0x4E, "allocated"), (0x4F, "associated"),
    (0x50, "data_location"), (0x51, "byte_stride"), (0x52, "entry_pc"), (0x53, "use_UTF8"),
    (0x54, "extension"), (0x55, "ranges"), (0x56, "trampoline"), (0x57, "call_column"),
    (0x58, "call_file"), (0x59, "call_line"), (0x5A, "description"), (0x5B, "binary_scale"),
    (0x5C, "decimal_scale"), (0x5D, "small"), (0x5E, "decimal_sign"), (0x5F, "digit_count"),
    (0x60, "picture_string"), (0x61, "mutable"), (0x62, "threads_scaled"), (0x63, "explicit"),
    (0x64, "object_pointer"), (0x65, "endianity"), (0x66, "elemental"), (0x67, "pure"),
    (0x68, "recursive"), (0x69, "signature"), (0x6A, "main_subprogram"), (0x6B, "data_bit_offset"),
    (0x6C, "const_expr"), (0x6D, "enum_class"), (0x6E, "linkage_name"),
    (0x6F, "string_length_bit_size"), (0x70, "string_length_byte_size"), (0x71, "rank"),
    (0x72, "str_offsets_base"), (0x73, "addr_base"), (0x74, "rnglists_base"), (0x76, "dwo_name"),
    (0x77, "reference"), (0x78, "rvalue_reference"), (0x79, "macros"), (0x7A, "call_all_calls"),
    (0x7B, "call_all_source_calls"), (0x7C, "call_all_tail_calls"), (0x7D, "call_return_pc"),
    (0x7E, "call_value"), (0x7F, "call_origin"), (0x80, "call_parameter"), (0x81, "call_pc"),
    (0x82, "call_tail_call"), (0x83, "call_target"), (0x84, "call_target_clobbered"),
    (0x85, "call_data_location"), (0x86, "call_data_value"), (0x87, "noreturn"),
    (0x88, "alignment"), (0x89, "export_symbols"), (0x8A, "deleted"), (0x8B, "defaulted"),
    (0x8C, "loclists_base"), (0x2000, "lo_user"), (0x2001, "MIPS_fde"), (0x2002, "MIPS_loop_begin"),
    (0x2003, "MIPS_tail_loop_begin"), (0x2004, "MIPS_epilog_begin"),
    (0x2005, "MIPS_loop_unroll_factor"), (0x2006, "MIPS_software_pipeline_depth"),
    (0x2007, "MIPS_linkage_name"), (0x2008, "MIPS_stride"), (0x2009, "MIPS_abstract_name"),
    (0x200A, "MIPS_clone_origin"), (0x200B, "MIPS_has_inlines"), (0x200C, "MIPS_stride_byte"),
    (0x200D, "MIPS_stride_elem"), (0x200E, "MIPS_ptr_dopetype"),
    (0x200F, "MIPS_allocatable_dopetype"), (0x2010, "MIPS_assumed_shape_dopetype"),
    (0x2011, "MIPS_assumed_size"), (0x2026, "INTEL_other_endian"), (0x2101, "sf_names"),
    (0x2102, "src_info"), (0x2103, "mac_info"), (0x2104, "src_coords"), (0x2105, "body_begin"),
    (0x2106, "body_end"), (0x2107, "GNU_vector"), (0x2108, "GNU_guarded_by"),
    (0x2109, "GNU_pt_guarded_by"), (0x210A, "GNU_guarded"), (0x210B, "GNU_pt_guarded"),
    (0x210C, "GNU_locks_excluded"), (0x210D, "GNU_exclusive_locks_required"),
    (0x210E, "GNU_shared_locks_required"), (0x210F, "GNU_odr_signature"),
    (0x2110, "GNU_template_name"), (0x2111, "GNU_call_site_value"),
    (0x2112, "GNU_call_site_data_value"), (0x2113, "GNU_call_site_target"),
    (0x2114, "GNU_call_site_target_clobbered"), (0x2115, "GNU_tail_call"),
    (0x2116, "GNU_all_tail_call_sites"), (0x2117, "GNU_all_call_sites"),
    (0x2118, "GNU_all_source_call_sites"), (0x2119, "GNU_macros"), (0x211A, "GNU_deleted"),
    (0x2130, "GNU_dwo_name"), (0x2131, "GNU_dwo_id"), (0x2132, "GNU_ranges_base"),
    (0x2133, "GNU_addr_base"), (0x2134, "GNU_pubnames"), (0x2135, "GNU_pubtypes"),
    (0x2136, "GNU_discriminator"), (0x2137, "GNU_locviews"), (0x2138, "GNU_entry_view"),
    (0x2201, "SUN_template"), (0x2202, "SUN_alignment"), (0x2203, "SUN_vtable"),
    (0x2204, "SUN_count_guarantee"), (0x2205, "SUN_command_line"), (0x2206, "SUN_vbase"),
    (0x2207, "SUN_compile_options"), (0x2208, "SUN_language"), (0x2209, "SUN_browser_file"),
    (0x2210, "SUN_vtable_abi"), (0x2211, "SUN_func_offsets"), (0x2212, "SUN_cf_kind"),
    (0x2213, "SUN_vtable_index"), (0x2214, "SUN_omp_tpriv_addr"), (0x2215, "SUN_omp_child_func"),
    (0x2216, "SUN_func_offset"), (0x2217, "SUN_memop_type_ref"), (0x2218, "SUN_profile_id"),
    (0x2219, "SUN_memop_signature"), (0x2220, "SUN_obj_dir"), (0x2221, "SUN_obj_file"),
    (0x2222, "SUN_original_name"), (0x2223, "SUN_hwcprof_signature"),
    (0x2224, "SUN_amd64_parmdump"), (0x2225, "SUN_part_link_name"), (0x2226, "SUN_link_name"),
    (0x2227, "SUN_pass_with_const"), (0x2228, "SUN_return_with_const"),
    (0x2229, "SUN_import_by_name"), (0x222A, "SUN_f90_pointer"), (0x222B, "SUN_pass_by_ref"),
    (0x222C, "SUN_f90_allocatable"), (0x222D, "SUN_f90_assumed_shape_array"), (0x222E, "SUN_c_vla"),
    (0x2230, "SUN_return_value_ptr"), (0x2231, "SUN_dtor_start"), (0x2232, "SUN_dtor_length"),
    (0x2233, "SUN_dtor_state_initial"), (0x2234, "SUN_dtor_state_final"),
    (0x2235, "SUN_dtor_state_deltas"), (0x2236, "SUN_import_by_lname"),
    (0x2237, "SUN_f90_use_only"), (0x2238, "SUN_namelist_spec"), (0x2239, "SUN_is_omp_child_func"),
    (0x223A, "SUN_fortran_main_alias"), (0x223B, "SUN_fortran_based"), (0x2300, "ALTIUM_loclist"),
    (0x2301, "use_GNAT_descriptive_type"), (0x2302, "GNAT_descriptive_type"),
    (0x2303, "GNU_numerator"), (0x2304, "GNU_denominator"), (0x2305, "GNU_bias"),
    (0x3210, "upc_threads_scaled"), (0x3A00, "PGI_lbase"), (0x3A01, "PGI_soffset"),
    (0x3A02, "PGI_lstride"), (0x3B11, "BORLAND_property_read"), (0x3B12, "BORLAND_property_write"),
    (0x3B13, "BORLAND_property_implements"), (0x3B14, "BORLAND_property_index"),
    (0x3B15, "BORLAND_property_default"), (0x3B20, "BORLAND_Delphi_unit"),
    (0x3B21, "BORLAND_Delphi_class"), (0x3B22, "BORLAND_Delphi_record"),
    (0x3B23, "BORLAND_Delphi_metaclass"), (0x3B24, "BORLAND_Delphi_constructor"),
    (0x3B25, "BORLAND_Delphi_destructor"), (0x3B26, "BORLAND_Delphi_anonymous_method"),
    (0x3B27, "BORLAND_Delphi_interface"), (0x3B28, "BORLAND_Delphi_ABI"),
    (0x3B29, "BORLAND_Delphi_return"), (0x3B30, "BORLAND_Delphi_frameptr"),
    (0x3B31, "BORLAND_closure"), (0x3E00, "LLVM_include_path"), (0x3E01, "LLVM_config_macros"),
    (0x3E02, "LLVM_isysroot"), (0x3FE1, "APPLE_optimized"), (0x3FE2, "APPLE_flags"),
    (0x3FE3, "APPLE_isa"), (0x3FE4, "APPLE_block"), (0x3FE5, "APPLE_major_runtime_vers"),
    (0x3FE6, "APPLE_runtime_class"), (0x3FE7, "APPLE_omit_frame_ptr"),
    (0x3FE8, "APPLE_property_name"), (0x3FE9, "APPLE_property_getter"),
    (0x3FEA, "APPLE_property_setter"), (0x3FEB, "APPLE_property_attribute"),
    (0x3FEC, "APPLE_objc_complete_type"), (0x3FED, "APPLE_property"), (0x3FFF, "hi_user")]

def languageNames : List (Nat × String) := [
    (0x1, "C89"), (0x2, "C"), (0x3, "Ada83"), (0x4, "C_plus_plus"), (0x5, "Cobol74"),
    (0x6, "Cobol85"), (0x7, "Fortran77"), (0x8, "Fortran90"), (0x9, "Pascal83"), (0xA, "Modula2"),
    (0xB, "Java"), (0xC, "C99"), (0xD, "Ada95"), (0xE, "Fortran95"), (0xF, "PLI"), (0x10, "ObjC"),
    (0x11, "ObjC_plus_plus"), (0x12, "UPC"), (0x13, "D"), (0x14, "Python"), (0x15, "OpenCL"),
    (0x16, "Go"), (0x17, "Modula3"), (0x18, "Haskell"), (0x19, "C_plus_plus_03"),
    (0x1A, "C_plus_plus_11"), (0x1B, "OCaml"), (0x1C, "Rust"), (0x1D, "C11"), (0x1E, "Swift"),
    (0x1F, "Julia"), (0x20, "Dylan"), (0x21, "C_plus_plus_14"), (0x22, "Fortran03"),
    (0x23, "Fortran08"), (0x24, "RenderScript"), (0x25, "BLISS"), (0x26, "Kotlin"), (0x27, "Zig"),
    (0x28, "Crystal"), (0x2A, "C_plus_plus_17"), (0x2B, "C_plus_plus_20"), (0x2C, "C17"),
    (0x2D, "Fortran18"), (0x2E, "Ada2005"), (0x2F, "Ada2012"), (0x8000, "lo_user"),
    (0x8001, "Mips_Assembler"), (0x8E57, "GOOGLE_RenderScript"), (0x9001, "SUN_Assembler"),
    (0x9101, "ALTIUM_Assembler"), (0xB000, "BORLAND_Delphi"), (0xFFFF, "hi_user")]

/-- The family of the code, and its name or its number. -/
def codeName (family : String) (names : List (Nat × String)) (code : Nat) : String :=
  family ++ (names.lookup code).getD (Text.hex code)

def tagName (code : Nat) : String := codeName "DW_TAG_" tagNames code

def attributeName (code : Nat) : String := codeName "DW_AT_" attributeNames code

def languageName (code : Nat) : String := codeName "DW_LANG_" languageNames code

end ElfFacts.Dwarf
