/-!
# Listed names of characters

The names that are not made by a rule, in alphabetical order, and further names that some
characters go by, with `_` between words. Small letters say how many characters to take off the
end of the name before, `a` none and `z` twenty-five, and what follows them is put in their
place. Blanks are no part of the table.
-/

namespace CodeGauge.Text

def characterNameTable : String := "
  aABACUSfC_CURRENTiCORDIONfUNT_OFiKaNOWLEDGEjTIVATE_ARABIC_FORM_SHAPINGtSYMMETRIC_SWAPPING
  zUTE_ACCENTfNGLEkDDRESSED_TO_THE_SUBJECTwHESIVE_BANDAGEoI_SHAKTIiLAM_ALIF_LENGTHENER
  pCAPITAL_LETTER_ALIFeBAbHEdCHIdDAALIeHAdEbFAcGAbBEdHAcIbJIIMeKAFcHAcPOdLAAMeMIIMeNHAcUNcYAdObPE
  cQAAFeRAcSHAcINNYIIYHEkTUcUbVAcWAWdYAbHEdZALrONSONANT_MODIFIERsDIGIT_EIGHTfFIVEdOUReNINEeONE
  dSEVENeIXdTHREEeWOdZEROkGEMINATE_CONSONANT_MODIFIERuION_MARKpHAMZAfINITIAL_EXCLAMATION_MARK
  qQUESTION_MARKvNASALIZATION_MARKqUKTAfSMALL_LETTER_ALIFeBAbHEdCHIdDAALIeHAdEbFAcGAbBEdHAcIbJIIM
  eKAFcHAcPOdLAAMeMIIMeNHAcUNcYAdObPEcQAAFeRAcSHAcINNYIIYHEkTUcUbVAcWAWdYAbHEdZALqVOWEL_LENGTHENER
  uMETOSeISSION_TICKETSpULTeEGEAN_CHECK_MARKkDRY_MEASURE_FIRST_SUBUNITzLIQUID_MEASURE_FIRST_SUBUNIT
  zdMEASURE_SECOND_SUBUNIToTHIRD_SUBUNITvNUMBER_EIGHTa_HUNDREDhTHOUSANDjYa_THOUSANDpFIFTYa_THOUSAND
  mVEa_HUNDREDhTHOUSANDmORTYa_THOUSANDmURa_HUNDREDhTHOUSANDnNINEa_HUNDREDhTHOUSANDjTYa_THOUSANDpONE
  a_HUNDREDhTHOUSANDmSEVENa_HUNDREDhTHOUSANDjTYa_THOUSANDpIXa_HUNDREDhTHOUSANDjTYa_THOUSANDoTEN
  a_THOUSANDlHIRTYa_THOUSANDnREEa_HUNDREDhTHOUSANDnWENTYa_THOUSANDnOa_HUNDREDhTHOUSAND
  tWEIGHT_BASE_UNITjFIRST_SUBUNITmOURTH_SUBUNIToSECOND_SUBUNIToTHIRD_SUBUNITtORD_SEPARATOR_DOTdLINE
  yRIAL_TRAMWAYnFGHANI_SIGNlHOM_CONSONANT_SIGN_MEDIAL_LAbIGATING_RAlRAyDIGIT_EIGHTfFIVEdOUReNINE
  eONEdSEVENeIXdTHREEeWOdZEROkLETTER_AaLTERNATE_BAcGAcTAmBAbHAdCAbHAdDAbDAbHAdHAdGAbHAdHAcJAbHAdKA
  bHAdLAbLAdMAcNAbGAcNAcYAdPAbHAdRAcSAcTAbHAcTAbHAlNUMBER_TENcWENTYnSIGN_KILLERgRULAIfSECTION
  gMALL_SECTIONrYMBOL_VIjVOWEL_SIGN_AaAbIbMbWcEbIaIcObUaUrIRPLANEa_ARRIVINGiDEPARTURErKTIESELSKAB
  lLARM_CLOCKjCHEMICAL_SYMBOL_FOR_AIRcLEMBICfKALIa-2gUMdMALGAMgNTIMONY_ORElQUA_REGIAa-2hVITAEa-2
  iFORTISjRSENICgSHESeURIPIGMENTlBATH_OF_MARYeVAPOURSoISMUTH_OREkLACK_SULFURlORAXa-2b3gRICK
  fCADUCEUSgLXcPUT_MORTUUMmINNABARhOPPER_ANTIMONIATElOREjROCUS_OF_COPPERa-2iIRONmUCIBLEa-2b3b4b5
  kDAY-NIGHTiISSOLVEa-2hTILLhEARTHfFIREeGOLDdUMdHALF_DRAMeOUNCEjORSE_DUNGiUReIRON_OREa-2
  g-COPPER_OREpLEAD_OREhODESTONEjMARCASITEiERCURY_SUBLIMATEa-2b3sONTHfNIGHTdTREfOIL
  dPHILOSOPHERS_SULFURsOT_ASHEShWDERaED_BRICKnRECIPITATEkURIFYeTREFACTIONmQUICK_LIMEhNTESSENCE
  mREALGARa-2hGULUSa_OF_ANTIMONYa-2kIRONi-2b3b4hTORTfOCK_SALTa-2lSAL-AMMONIACjTa_OF_ANTIMONY
  iCOPPER_ANTIMONIATEzCEPTER_OF_JOVEoILVERfOAPdPIRITfTARRED_TRIDENTnRATUM_SUPER_STRATUMa-2
  wUBLIMATE_OF_ANTIMONYiCOPPERgSALT_OF_ANTIMONYiCOPPERtIONjLFURgTARTARa-2hIN_OREeCTUREhRIDENTgUTTY
  fURINEfVERDIGRISiINEGARa_OF_ANTIMONYm-2b3hTRIOLa-2jWATERdXxEF_SYMBOLiMBICeRTdIEN_MONSTER
  lL_AROUND-PROFILEoEQUAL_TOkMaOST_EQUAL_OR_EQUAL_TOlTOa_WITH_CIRCUMFLEX_ACCENT
  zlTERNATE_ONE-WAY_LEFT_WAY_TRAFFICzbIVE_KEY_SYMBOLvMALGAMATION_OR_COPRODUCTxBULANCE
  hERICAN_FOOTBALLpPERSANDgHORAgNATOLIAN_HIEROGLYPH_A001b2b3b4b5b6b7b8b9c10aAc1b2b3b4b5b6b7b8b9c20
  b1b2b3b4b5b6aAc7b8b9c30b1b2b3b4b5b6b7b8b9aAd40b1aAc2b3b4b5aAc6aAbBc7b8b9c50b1b2b3b4b5b6b7b8b9c60
  b1b2b3b4b5b6aAbBbCc7b8b9c70b1b2b3b4b5b6b7b8b9c80b1b2b3b4b5b6b7b8b9c90b1b2b3b4b5b6b7aAc8aAc9d100aA
  c1aAc2aAc3b4aAbBbCc5aAbBc6b7aAbBbCc8b9c10aAbBc1b2b3b4b5aAc6b7b8b9c20b1b2b3b4b5aAc6b7b8b9c30b1b2b3
  b4b5aAc6b7b8b9c40b1b2b3b4b5b6b7b8b9c50b1b2b3b4b5b6b7b8b9c60b1b2b3b4b5b6b7b8b9c70b1b2b3b4b5b6b7b8
  b9c80b1b2b3b4b5b6b7b8b9c90b1b2b3b4b5b6b7b8b9d200b1b2aAbBc3b4b5b6b7aAc8b9aAd10b1b2b3b4b5aAc6aAc7b8
  b9c20b1b2b3b4b5b6b7aAc8b9c30b1b2b3b4b5b6b7b8b9c40b1b2b3b4b5b6b7b8b9c50b1b2b3b4b5b6b7b8b9c60b1b2b3
  b4b5b6b7aAc8b9c70b1b2b3b4b5b6b7b8b9c80b1b2b3b4b5b6b7b8b9aAd90b1b2b3b4aAc5b6b7b8b9aAe300b1b2b3b4b5
  b6b7b8b9aAd10b1b2b3b4b5b6b7b8b9c20b1b2b3b4b5b6b7b8b9aAd30b1b2AbBbCc3b4b5b6aAbBbCc7b8b9c40b1b2b3b4
  b5b6b7b8b9c50b1b2b3b4b5b6b7b8b9aAd60b1b2b3b4aAc5b6b7b8aAc9c70b1aAc2b3b4b5b6b7b8b9c80b1aAc2
  b3_RA_OR_RIjAc4b5b6aAc7b8b9c90b1b2b3_EIGHTh4b5b6b7b8b9d400b1b2b3b4b5b6b7b8b9
  c10_BEGIN_LOGOGRAM_MARKuA_END_LOGOGRAM_MARKu1b2b3b4b5b6b7b8b9c20b1b2b3b4b5b6b7b8b9c30b1b2b3b4b5b6
  b7b8b9c40b1b2b3b4b5b6b7b8b9c50aAc1b2b3b4b5b6b7aAc8b9c60b1b2b3b4b5b6b7b8b9c70b1b2b3b4b5b6b7b8b9c80
  b1b2b3b4b5b6b7b8b9c90b1b2b3b4b5b6b7d501b2b3b4b5b6b7b8b9c10b1b2b3b4b5b6b7b8b9c20b1b2b3b4b5b6b7b8b9
  c30uMICAL_HEARToCHOReD_WITH_DOTkGER_SYMBOLjLEa_WITH_S_INSIDEiUNDERBARqRY_FACEhSTROM_SIGN
  kUISHED_FACEmKHcTaENNA_WITH_BARSoICLOCKWISE_CLOSED_CIRCLE_ARROWsONTOUR_INTEGRAL
  qDOWNWARDS_AND_UPWARDS_OPEN_CIRCLE_ARROWSzpGAPPED_CIRCLE_ARROWtINTEGRATIONlOPEN_CIRCLE_ARROW
  rTOP_SEMICIRCLE_ARROWtRIANGLE-HEADED_BOTTOM_U-SHAPED_ARROWvLEFT_U-SHAPED_ARROWtOPEN_CIRCLE_ARROW
  rRIGHT_U-SHAPED_ARROWuTOP_U-SHAPED_ARROWzwPCbL_FUNCTIONAL_SYMBOL_ALPHAa_UNDERBARoBACKSLASH_BAR
  nCIRCLE_BACKSLASHjDIAERESISjJOTdSTARcILEfUNDERBARoOMMA_BARjDEL_DIAERESISjSTILEfTILDEgTA_STILE
  fUNDERBARnIAMOND_UNDERBARpOWN_CARET_TILDElSHOE_STILEkTACK_JOTdUNDERBARoWARDS_VANE
  oEPSILON_UNDERBARqGREATER-THAN_DIAERESISwI-BEAMfOTAa_UNDERBARnJOT_DIAERESISjUNDERBAR
  mLEFT_SHOE_STILElWARDS_VANEoOMEGAa_UNDERBARoQUADa_BACKSLASHjCIRCLEfOLONfDELaTAeIAMONDfVIDE
  fOWN_CARETgWARDS_ARROWpEQUALfGREATER-THANmJOTdLEFTWARDS_ARROWnSS-THANjNOT_EQUALjQUESTION
  iRIGHTWARDS_ARROWqSLASHfUP_CARETgWARDS_ARROWqOTE_QUADeUNDERBARoRHOcIGHTWARDS_VANE
  pSEMICOLON_UNDERBARrLASH_BARiQUISH_QUADkTAR_DIAERESISmILE_TILDElTILDE_DIAERESISpUP_CARET_TILDE
  lSHOE_JOTiTACK_DIAERESISjJOTdOVERBARnWARDS_VANEmZILDEzOLLONeSTROPHEiPLICATION_PROGRAM_COMMAND
  yROACHES_THE_LIMITpXIMATELY_BUT_NOT_ACTUALLY_EQUAL_TOzEQUAL_OR_EQUAL_TOlTOa_OR_THE_IMAGE_OF
  zmQUARIUShRABIC_BASELINE_ROUND_DOTsCOMMAeURLY_DAMMAaTANiFATHAaTANiKASRAaTANoDAMMAa_ISOLATED_FORM
  nMEDIAL_FORMlWITH_DOTjTANa_ISOLATED_FORMuTE_SEPARATORnECIMAL_SEPARATORqISPUTED_END_OF_AYAH
  tOUBLE_RIGHT_ARROWHEAD_ABOVEa_WITH_DOTzgD_MADDAnEMPTY_CENTRE_HIGH_STOPjLOW_STOPuND_OF_AYAH
  eTEXT_MARKqFATHAa_ISOLATED_FORMnMEDIAL_FORMlWITH_DOT_ABOVEjRINGeTWO_DOTSoTANa_ISOLATED_FORM
  vIVE_POINTED_STARqOOTNOTE_MARKERoULL_STOPjHALF_MADDA_OVER_MADDAtMZA_ABOVEfBELOWlINVERTED_DAMMA
  oKASRAa_ISOLATED_FORMnMEDIAL_FORMlWITH_DOT_BELOWpTANa_ISOLATED_FORMwLARGE_CIRCLE_BELOW
  mROUND_DOT_ABOVEfBELOWfINSIDE_CIRCLE_BELOWzjEFT_ARROWHEAD_ABOVEfBELOWsTTER_AEbFRICAN_FEHdNOONeQAF
  a_WITH_THREE_DOTS_ABOVEzhINa_FINAL_FORMkINITIAL_FORMlSOLATED_FORMnMEDIAL_FORM
  lWITH_THREE_DOTS_ABOVEfBELOWfPOINTING_DOWNWARDS_ABOVEzjWO_DOTS_ABOVEfVERTICALLY_ABOVEziLEF
  a_FINAL_FORMkISOLATED_FORMnMAKSURAa_FINAL_FORMkISOLATED_FORMvWASLAa_FINAL_FORMkISOLATED_FORM
  sITH_ATTACHED_BOTTOM_RIGHT_KASRAa_AND_DOT_ABOVEjLEFT_RINGzhFATHAfKASRAfLEFT_HAMZAfROUND_DOT
  oRIGHT_HAMZAfROUND_DOToOUND_DOT_ABOVEfBELOWpTOP_RIGHT_FATHAa_AND_DOT_ABOVEjLEFT_RINGznDOT_ABOVE
  jEXTENDED_ARABIC-INDIC_DIGIT_THREE_ABOVEkWO_ABOVEzmHAMZA_ABOVEa_FINAL_FORMkISOLATED_FORMtBELOW
  a_FINAL_FORMkISOLATED_FORMzLEFT_MIDDLE_STROKEsMADDA_ABOVEa_FINAL_FORMkISOLATED_FORM
  zRIGHT_MIDDLE_STROKEa_AND_DOT_ABOVEjLEFT_RINGziWAVY_HAMZA_ABOVEfBELOWzbBEEHa_FINAL_FORM
  kINITIAL_FORMlSOLATED_FORMnMEDIAL_FORMoHa_FINAL_FORMkINITIAL_FORMlSOLATED_FORMnMEDIAL_FORM
  lWITH_DOT_BELOW_AND_THREE_DOTS_ABOVEzfHAMZA_ABOVElINVERTED_SMALL_V_BELOWwSMALL_MEEM_ABOVEkV
  a_BELOWnTHREE_DOTS_HORIZONTALLY_BELOWsPOINTING_UPWARDS_BELOWa_AND_TWO_DOTS_ABOVE
  zzbWO_DOTS_BELOW_AND_DOT_ABOVEzjEHa_FINAL_FORMkINITIAL_FORMlSOLATED_FORMnMEDIAL_FORMrDAD
  a_FINAL_FORMkINITIAL_FORMlSOLATED_FORMnMEDIAL_FORMlWITH_DOT_BELOWqHALa_FINAL_FORMkISOLATED_FORMrL
  a_FINAL_FORMkISOLATED_FORMnWITH_DOT_BELOWa_AND_SMALL_TAHxFOUR_DOTS_ABOVEpINVERTED_SMALL_V_BELOWnV
  kRINGeTHREE_DOTS_ABOVE_DOWNWARDSpBELOWpWO_DOTS_VERTICALLY_BELOW_AND_SMALL_TAHzwDAHALa_FINAL_FORM
  kISOLATED_FORMrLa_FINAL_FORMkISOLATED_FORMrOTLESS_BEHdFEHdQAFkULa_FINAL_FORMkISOLATED_FORMqYEH
  a_FINAL_FORMkINITIAL_FORMlSOLATED_FORMnMEDIAL_FORMqEa_FINAL_FORMkINITIAL_FORMlSOLATED_FORM
  nMEDIAL_FORMnFARSI_YEHa_FINAL_FORMkINITIAL_FORMlSOLATED_FORMnMEDIAL_FORM
  lWITH_EXTENDED_ARABIC-INDIC_DIGIT_FOUR_BELOWkTHREE_ABOVEkWO_ABOVEzmINVERTED_VkTHREE_DOTS_ABOVE
  pWO_DOTS_ABOVEzdEHa_FINAL_FORMkINITIAL_FORMlSOLATED_FORMnMEDIAL_FORMlWITH_DOT_BELOW
  a_AND_THREE_DOTS_ABOVEzbMOVED_BELOWpTHREE_DOTS_BELOWfPOINTING_UPWARDS_BELOWzhWO_DOTS_BELOWxGAF
  a_FINAL_FORMkINITIAL_FORMlSOLATED_FORMnMEDIAL_FORMlWITH_INVERTED_STROKEpRINGeTHREE_DOTS_ABOVE
  pWO_DOTS_BELOWwHAINa_FINAL_FORMkINITIAL_FORMlSOLATED_FORMnMEDIAL_FORMlWITH_DOT_BELOW
  jTHREE_DOTS_ABOVEzbRAFdUEHa_FINAL_FORMkINITIAL_FORMlSOLATED_FORMnMEDIAL_FORMqHAHa_FINAL_FORM
  kINITIAL_FORMlSOLATED_FORMnMEDIAL_FORMlWITH_EXTENDED_ARABIC-INDIC_DIGIT_FOUR_BELOWznHAMZA_ABOVE
  lINVERTED_SMALL_V_BELOWwSMALL_ARABIC_LETTER_TAH_ABOVEeND_TWO_DOTSmBELOWzeTHREE_DOTS_ABOVE
  fPOINTING_UPWARDS_BELOWzhWO_DOTS_ABOVEfVERTICAL_ABOVEzfMZAa_ISOLATED_FORMsEHa_DOACHASHMEE
  a_FINAL_FORMkINITIAL_FORMlSOLATED_FORMnMEDIAL_FORMxFINAL_FORMkGOALa_FINAL_FORMkINITIAL_FORM
  lSOLATED_FORMnMEDIAL_FORMlWITH_HAMZA_ABOVEvINITIAL_FORMlSOLATED_FORMnMEDIAL_FORMlWITH_INVERTED_V
  kYEH_ABOVEa_FINAL_FORMkISOLATED_FORMzgIGH_HAMZAa_ALEFeWAWdYEHoJEEMa_FINAL_FORMkINITIAL_FORM
  lSOLATED_FORMnMEDIAL_FORMlWITH_THREE_DOTS_ABOVEfBELOWpWO_DOTS_ABOVEwHa_FINAL_FORMkISOLATED_FORM
  rKAFa_FINAL_FORMkINITIAL_FORMlSOLATED_FORMnMEDIAL_FORMlWITH_DOT_ABOVEfBELOWjRINGeTHREE_DOTS_BELOW
  pWO_DOTS_ABOVEvSHMIRI_YEHlEHEHa_FINAL_FORMkINITIAL_FORMlSOLATED_FORMnMEDIAL_FORMlWITH_DOT_ABOVE
  jSMALL_VhTHREE_DOTS_ABOVEfBELOWfPOINTING_UPWARDS_BELOWzhWO_DOTS_ABOVEfVERTICALLY_BELOWzkHAH
  a_FINAL_FORMkINITIAL_FORMlSOLATED_FORMnMEDIAL_FORMpIRGHIZ_OEa_FINAL_FORMkISOLATED_FORMqYU
  a_FINAL_FORMkISOLATED_FORMyLAMa_FINAL_FORMkINITIAL_FORMlSOLATED_FORMnMEDIAL_FORMlWITH_BAR
  dDOT_ABOVEhUBLE_BARkSMALL_ARABIC_LETTER_TAH_ABOVExVhTHREE_DOTS_ABOVEfBELOWyOW_ALEFiMARKdEEM
  a_FINAL_FORMkINITIAL_FORMlSOLATED_FORMnMEDIAL_FORMlWITH_DOT_ABOVEfBELOWjTHREE_DOTS_ABOVEzbNG
  a_FINAL_FORMkINITIAL_FORMlSOLATED_FORMnMEDIAL_FORMmOEHa_FINAL_FORMkINITIAL_FORMlSOLATED_FORM
  nMEDIAL_FORMqOONa_FINAL_FORMkGHUNNAa_FINAL_FORMkISOLATED_FORMuINITIAL_FORMlSOLATED_FORM
  nMEDIAL_FORMlWITH_DOT_BELOWjINVERTED_SMALL_VqRINGeSMALL_TAHdVhTHREE_DOTS_ABOVEpWO_DOTS_BELOWxYEH
  a_FINAL_FORMkINITIAL_FORMlSOLATED_FORMnMEDIAL_FORMqOEa_FINAL_FORMkISOLATED_FORMqPEHa_FINAL_FORM
  kINITIAL_FORMlSOLATED_FORMnMEDIAL_FORMlWITH_SMALL_MEEM_ABOVEkVnEHa_FINAL_FORMkINITIAL_FORM
  lSOLATED_FORMnMEDIAL_FORMrQAFa_FINAL_FORMkINITIAL_FORMlSOLATED_FORMnMEDIAL_FORMlWITH_DOT_ABOVE
  fBELOWa_AND_NO_DOTS_ABOVEzcTHREE_DOTS_ABOVEzREHa_FINAL_FORMkISOLATED_FORMnWITH_DOT_BELOW
  a_AND_DOT_ABOVExFOUR_DOTS_ABOVEpHAMZA_ABOVElINVERTED_VkLOOPeRING
  eSMALL_ARABIC_LETTER_TAH_AND_TWO_DOTSzfNOON_ABOVEkVa_BELOWmTROKEgTWO_DOTS_ABOVEfVERTICALLY_ABOVE
  ziNOONa_FINAL_FORMkINITIAL_FORMlSOLATED_FORMnMEDIAL_FORMqOHINGYA_YEHlREHa_FINAL_FORM
  kISOLATED_FORMsSADa_FINAL_FORMkINITIAL_FORMlSOLATED_FORMnMEDIAL_FORMlWITH_THREE_DOTS_ABOVEfBELOW
  pWO_DOTS_BELOWwEENa_FINAL_FORMkINITIAL_FORMlSOLATED_FORMnMEDIAL_FORMlWITH_DOT_BELOW_AND_DOT_ABOVE
  xEXTENDED_ARABIC-INDIC_DIGIT_FOUR_ABOVEznFOUR_DOTS_ABOVEpINVERTED_V
  kSMALL_ARABIC_LETTER_TAH_AND_TWO_DOTSzlTHREE_DOTS_BELOWa_AND_THREE_DOTS_ABOVE
  zlWO_DOTS_VERTICALLY_ABOVEzjHEENa_FINAL_FORMkINITIAL_FORMlSOLATED_FORMnMEDIAL_FORMlWITH_DOT_BELOW
  tTRAIGHT_WAWlUPERSCRIPT_ALEFpWASH_KAFjTAHa_FINAL_FORMkINITIAL_FORMlSOLATED_FORMnMEDIAL_FORM
  lWITH_DOT_BELOWjTHREE_DOTS_ABOVEfBELOWpWO_DOTS_ABOVEwCHEHa_FINAL_FORMkINITIAL_FORMlSOLATED_FORM
  nMEDIAL_FORMlWITH_DOT_ABOVEjSMALL_VnEHa_FINAL_FORMkINITIAL_FORMlSOLATED_FORMnMEDIAL_FORMsEH
  a_FINAL_FORMkINITIAL_FORMlSOLATED_FORMnMARBUTAa_FINAL_FORMkGOALeISOLATED_FORMuEDIAL_FORM
  lWITH_RINGeSMALL_TEH_ABOVEjVhTHREE_DOTS_ABOVE_DOWNWARDSzhEHa_FINAL_FORMkINITIAL_FORMlSOLATED_FORM
  nMEDIAL_FORMqHALa_FINAL_FORMkISOLATED_FORMqEHa_FINAL_FORMkINITIAL_FORMlSOLATED_FORMnMEDIAL_FORM
  oIN_YEHhTEHa_FINAL_FORMkINITIAL_FORMlSOLATED_FORMnMEDIAL_FORMlWITH_SMALL_VnEHa_FINAL_FORM
  kINITIAL_FORMlSOLATED_FORMnMEDIAL_FORMsUa_FINAL_FORMkISOLATED_FORMnWITH_HAMZA_ABOVE
  a_ISOLATED_FORMzgIGHUR_KAZAKH_KIRGHIZ_ALEF_MAKSURA_INITIAL_FORMmMEDIAL_FORMzvVEa_FINAL_FORM
  kISOLATED_FORMoHa_FINAL_FORMkINITIAL_FORMlSOLATED_FORMnMEDIAL_FORMpWAWa_FINAL_FORMkISOLATED_FORM
  nWITH_DOT_ABOVEfWITHINkEXTENDED_ARABIC-INDIC_DIGIT_THREE_ABOVEkWO_ABOVEzmHAMZA_ABOVEa_FINAL_FORM
  kISOLATED_FORMzRINGeTWO_DOTS_ABOVExYEHa_BARREEa_FINAL_FORMkISOLATED_FORM
  nWITH_EXTENDED_ARABIC-INDIC_DIGIT_THREE_ABOVEkWO_ABOVEzmHAMZA_ABOVEa_FINAL_FORMkISOLATED_FORM
  zmFINAL_FORMkINITIAL_FORMlSOLATED_FORMnMEDIAL_FORMlWITH_HAMZA_ABOVEa_FINAL_FORMkINITIAL_FORM
  lSOLATED_FORMnMEDIAL_FORMxSMALL_VhTAILdHREE_DOTS_BELOWpWO_DOTS_BELOW_AND_DOT_ABOVEjHAMZA_ABOVE
  lSMALL_NOON_ABOVEzsUa_FINAL_FORMkISOLATED_FORMqZAHa_FINAL_FORMkINITIAL_FORMlSOLATED_FORM
  nMEDIAL_FORMnINa_FINAL_FORMkISOLATED_FORMnWITH_INVERTED_V_ABOVE
  zhIGATURE_AIN_WITH_ALEF_MAKSURA_FINAL_FORMkISOLATED_FORMzbJEEM_INITIAL_FORMlSOLATED_FORM
  nWITH_MEEM_FINAL_FORMkINITIAL_FORMzcMEEM_INITIAL_FORMlSOLATED_FORMnWITH_ALEF_MAKSURA_FINAL_FORM
  xMEEM_FINAL_FORMkINITIAL_FORMrYEH_FINAL_FORMyYEH_FINAL_FORMkISOLATED_FORMzKBAR_ISOLATED_FORM
  sLAYHAA_AS-SALAAMmE_ISOLATED_FORMpI_AS-SALAAMbTU_WAS-SALAAMwM_AS-SALAAMkAA_AS-SALAAM
  rEF_MAKSURA_WITH_SUPERSCRIPT_ALEF_FINAL_FORMkISOLATED_FORMzsWITH_FATHATAN_FINAL_FORM
  kISOLATED_FORMzfLAH_ISOLATED_FORMsZZA_WA_JALLmBEH_WITH_ALEF_MAKSURA_FINAL_FORMkISOLATED_FORM
  zbHAH_INITIAL_FORMlSOLATED_FORMnWITH_YEH_FINAL_FORMwEH_INITIAL_FORMmMEDIAL_FORMpJEEM_INITIAL_FORM
  lSOLATED_FORMsKHAH_INITIAL_FORMlSOLATED_FORMnWITH_YEH_FINAL_FORMyMEEM_FINAL_FORMkINITIAL_FORM
  lSOLATED_FORMnMEDIAL_FORMqNOON_FINAL_FORMpREH_FINAL_FORMoYEH_FINAL_FORMkISOLATED_FORM
  rZAIN_FINAL_FORMxISMILLAH_AR-RAHMAN_AR-RAHEEMzeDAD_WITH_ALEF_MAKSURA_FINAL_FORMkISOLATED_FORM
  zbHAH_INITIAL_FORMlSOLATED_FORMnWITH_ALEF_MAKSURA_FINAL_FORMxYEH_FINAL_FORMxJEEM_INITIAL_FORM
  lSOLATED_FORMsKHAH_INITIAL_FORMlSOLATED_FORMnWITH_MEEM_FINAL_FORMkINITIAL_FORMzcMEEM_INITIAL_FORM
  lSOLATED_FORMsREH_FINAL_FORMkISOLATED_FORMrYEH_FINAL_FORMkISOLATED_FORM
  zbFEH_WITH_ALEF_MAKSURA_FINAL_FORMkISOLATED_FORMzbHAH_INITIAL_FORMlSOLATED_FORMrJEEM_INITIAL_FORM
  lSOLATED_FORMsKHAH_INITIAL_FORMlSOLATED_FORMnWITH_MEEM_FINAL_FORMkINITIAL_FORMzcMEEM_INITIAL_FORM
  lSOLATED_FORMnWITH_YEH_FINAL_FORMyYEH_FINAL_FORMkISOLATED_FORM
  zbGHAIN_WITH_ALEF_MAKSURA_FINAL_FORMkISOLATED_FORMzbJEEM_INITIAL_FORMlSOLATED_FORM
  sMEEM_INITIAL_FORMlSOLATED_FORMnWITH_ALEF_MAKSURA_FINAL_FORMxMEEM_FINAL_FORMpYEH_FINAL_FORM
  yYEH_FINAL_FORMkISOLATED_FORMzdHAH_WITH_ALEF_MAKSURA_FINAL_FORMkISOLATED_FORMzbJEEM_INITIAL_FORM
  lSOLATED_FORMnWITH_YEH_FINAL_FORMyMEEM_INITIAL_FORMlSOLATED_FORMnWITH_ALEF_MAKSURA_FINAL_FORM
  xYEH_FINAL_FORMyYEH_FINAL_FORMkISOLATED_FORMzEH_WITH_ALEF_MAKSURA_ISOLATED_FORM
  zbJEEM_INITIAL_FORMlSOLATED_FORMsMEEM_INITIAL_FORMlSOLATED_FORMnWITH_JEEM_INITIAL_FORM
  rMEEM_INITIAL_FORMzcSUPERSCRIPT_ALEF_INITIAL_FORMzeYEH_ISOLATED_FORMzbJALLAJALALOUHOU
  oEEM_WITH_ALEF_MAKSURA_FINAL_FORMkISOLATED_FORMzbHAH_INITIAL_FORMlSOLATED_FORM
  nWITH_ALEF_MAKSURA_FINAL_FORMxYEH_FINAL_FORMxMEEM_INITIAL_FORMlSOLATED_FORM
  nWITH_ALEF_MAKSURA_FINAL_FORMxHAH_FINAL_FORMkINITIAL_FORMqYEH_FINAL_FORMyYEH_FINAL_FORM
  kISOLATED_FORMzcKAF_WITH_ALEF_FINAL_FORMkISOLATED_FORMnMAKSURA_FINAL_FORMkISOLATED_FORM
  zbHAH_INITIAL_FORMlSOLATED_FORMrJEEM_INITIAL_FORMlSOLATED_FORMsKHAH_INITIAL_FORMlSOLATED_FORM
  sLAM_FINAL_FORMkINITIAL_FORMlSOLATED_FORMnMEDIAL_FORMpMEEM_FINAL_FORMkINITIAL_FORMlSOLATED_FORM
  nMEDIAL_FORMlWITH_MEEM_FINAL_FORMkINITIAL_FORMrYEH_FINAL_FORMyYEH_FINAL_FORMkISOLATED_FORM
  zHAH_WITH_ALEF_MAKSURA_FINAL_FORMkISOLATED_FORMzbHAH_ISOLATED_FORMrJEEM_INITIAL_FORMlSOLATED_FORM
  sMEEM_INITIAL_FORMlSOLATED_FORMsYEH_FINAL_FORMkISOLATED_FORMzcLAM_WITH_ALEF_FINAL_FORM
  kISOLATED_FORMnMAKSURA_FINAL_FORMkISOLATED_FORMvWITH_HAMZA_ABOVE_FINAL_FORMkISOLATED_FORM
  tBELOW_FINAL_FORMkISOLATED_FORMzMADDA_ABOVE_FINAL_FORMkISOLATED_FORMzkHAH_INITIAL_FORM
  lSOLATED_FORMnWITH_ALEF_MAKSURA_FINAL_FORMxMEEM_FINAL_FORMkINITIAL_FORMrYEH_FINAL_FORM
  wEH_INITIAL_FORMqJEEM_INITIAL_FORMlSOLATED_FORMnWITH_JEEM_FINAL_FORMkINITIAL_FORMrMEEM_FINAL_FORM
  kINITIAL_FORMrYEH_FINAL_FORMyKHAH_INITIAL_FORMlSOLATED_FORMnWITH_MEEM_FINAL_FORMkINITIAL_FORM
  zcMEEM_FINAL_FORMkINITIAL_FORMlSOLATED_FORMnMEDIAL_FORMlWITH_HAH_FINAL_FORMkINITIAL_FORM
  qYEH_FINAL_FORMyYEH_FINAL_FORMkISOLATED_FORMzbMEEM_WITH_ALEF_FINAL_FORMkMAKSURA_ISOLATED_FORM
  zbHAH_INITIAL_FORMlSOLATED_FORMnWITH_JEEM_INITIAL_FORMrMEEM_INITIAL_FORMrYEH_FINAL_FORM
  xJEEM_INITIAL_FORMlSOLATED_FORMnWITH_HAH_INITIAL_FORMqKHAH_INITIAL_FORMrMEEM_INITIAL_FORM
  rYEH_FINAL_FORMyKHAH_INITIAL_FORMlSOLATED_FORMnWITH_JEEM_INITIAL_FORMrMEEM_INITIAL_FORM
  rYEH_FINAL_FORMyMEEM_FINAL_FORMkINITIAL_FORMlSOLATED_FORMnWITH_YEH_FINAL_FORMyYEH_ISOLATED_FORM
  zbOHAMMAD_ISOLATED_FORMwNOON_WITH_ALEF_MAKSURA_FINAL_FORMkISOLATED_FORMzbHAH_INITIAL_FORM
  lSOLATED_FORMnWITH_ALEF_MAKSURA_FINAL_FORMxMEEM_INITIAL_FORMrYEH_FINAL_FORMwEH_INITIAL_FORM
  mMEDIAL_FORMpJEEM_INITIAL_FORMlSOLATED_FORMnWITH_ALEF_MAKSURA_FINAL_FORMxHAH_FINAL_FORM
  kINITIAL_FORMqMEEM_FINAL_FORMkINITIAL_FORMrYEH_FINAL_FORMyKHAH_INITIAL_FORMlSOLATED_FORM
  sMEEM_FINAL_FORMkINITIAL_FORMlSOLATED_FORMnMEDIAL_FORMlWITH_ALEF_MAKSURA_FINAL_FORM
  xYEH_FINAL_FORMyNOON_FINAL_FORMpREH_FINAL_FORMoYEH_FINAL_FORMkISOLATED_FORMrZAIN_FINAL_FORM
  zQAF_WITH_ALEF_MAKSURA_FINAL_FORMkISOLATED_FORMzbHAH_INITIAL_FORMlSOLATED_FORMrMEEM_INITIAL_FORM
  lSOLATED_FORMnWITH_HAH_FINAL_FORMkINITIAL_FORMqMEEM_FINAL_FORMpYEH_FINAL_FORMyYEH_FINAL_FORM
  kISOLATED_FORMyLA_USED_AS_KORANIC_STOP_SIGN_ISOLATED_FORMzsUDDISA_SIRRAHoRADI_ALLAAHU_ANHaAAcUM
  aAAdNNAsHIMAHU_ALLAAHhM_ALLAAHoSOUL_ISOLATED_FORMtEH_WITH_SUPERSCRIPT_ALEF_ISOLATED_FORM
  zoSAD_WITH_ALEF_MAKSURA_FINAL_FORMkISOLATED_FORMzbHAH_INITIAL_FORMlSOLATED_FORM
  nWITH_HAH_FINAL_FORMkINITIAL_FORMqYEH_FINAL_FORMxKHAH_INITIAL_FORMrMEEM_INITIAL_FORMlSOLATED_FORM
  nWITH_MEEM_FINAL_FORMkINITIAL_FORMzcREH_FINAL_FORMkISOLATED_FORMrYEH_FINAL_FORMkISOLATED_FORM
  yLAAMUHU_ALAYNAAnM_ISOLATED_FORMqLA_ISOLATED_FORMnUSED_AS_KORANIC_STOP_SIGN_ISOLATED_FORM
  zpLLAAHU_ALAYHI_WA-AALIHtHOU_ALAYHE_WASALLAMsU_ALAYHI_WAAALIHEE_WA-SALLAM
  zlEEN_WITH_ALEF_MAKSURA_FINAL_FORMkISOLATED_FORMzbHAH_INITIAL_FORMlSOLATED_FORMnMEDIAL_FORM
  lWITH_JEEM_INITIAL_FORMzEH_INITIAL_FORMmMEDIAL_FORMpJEEM_INITIAL_FORMlSOLATED_FORMnMEDIAL_FORM
  lWITH_ALEF_MAKSURA_FINAL_FORMxHAH_INITIAL_FORMzbKHAH_INITIAL_FORMlSOLATED_FORMnMEDIAL_FORM
  lWITH_ALEF_MAKSURA_FINAL_FORMxYEH_FINAL_FORMyMEEM_INITIAL_FORMlSOLATED_FORMnMEDIAL_FORM
  lWITH_HAH_FINAL_FORMkINITIAL_FORMqJEEM_INITIAL_FORMrMEEM_FINAL_FORMkINITIAL_FORMzcREH_FINAL_FORM
  kISOLATED_FORMrYEH_FINAL_FORMkISOLATED_FORMzbHADDA_WITH_DAMMA_ISOLATED_FORMnMEDIAL_FORM
  mTAN_ISOLATED_FORMwFATHA_ISOLATED_FORMnMEDIAL_FORMrKASRA_ISOLATED_FORMnMEDIAL_FORM
  mTAN_ISOLATED_FORMwSUPERSCRIPT_ALEF_ISOLATED_FORMzpEEN_WITH_ALEF_MAKSURA_FINAL_FORMkISOLATED_FORM
  zbHAH_FINAL_FORMkINITIAL_FORMlSOLATED_FORMnMEDIAL_FORMlWITH_MEEM_FINAL_FORMkINITIAL_FORM
  rYEH_FINAL_FORMwEH_INITIAL_FORMmMEDIAL_FORMpJEEM_FINAL_FORMkINITIAL_FORMlSOLATED_FORMnMEDIAL_FORM
  lWITH_YEH_FINAL_FORMyKHAH_FINAL_FORMkINITIAL_FORMlSOLATED_FORMnMEDIAL_FORMqMEEM_FINAL_FORM
  kINITIAL_FORMlSOLATED_FORMnMEDIAL_FORMlWITH_KHAH_FINAL_FORMkINITIAL_FORMrMEEM_FINAL_FORM
  kINITIAL_FORMzcREH_FINAL_FORMkISOLATED_FORMrYEH_FINAL_FORMkISOLATED_FORMzcUBHAANAHU_WA_TAAALAA
  vTABAARAKA_WA-TAAALAAsH_WITH_ALEF_MAKSURA_FINAL_FORMkISOLATED_FORMzbHAH_INITIAL_FORMlSOLATED_FORM
  rMEEM_INITIAL_FORMlSOLATED_FORMnMEDIAL_FORMlWITH_HAH_FINAL_FORMkINITIAL_FORMqMEEM_INITIAL_FORM
  rYEH_FINAL_FORMyYEH_FINAL_FORMkISOLATED_FORMzEH_WITH_ALEF_MAKSURA_FINAL_FORMkISOLATED_FORM
  zbHAH_INITIAL_FORMlSOLATED_FORMnWITH_JEEM_FINAL_FORMkINITIAL_FORMrMEEM_INITIAL_FORM
  zEH_INITIAL_FORMmMEDIAL_FORMpJEEM_INITIAL_FORMlSOLATED_FORMnWITH_ALEF_MAKSURA_FINAL_FORM
  xMEEM_INITIAL_FORMrYEH_FINAL_FORMyKHAH_INITIAL_FORMlSOLATED_FORMnWITH_ALEF_MAKSURA_FINAL_FORM
  xMEEM_INITIAL_FORMrYEH_FINAL_FORMyMEEM_FINAL_FORMkINITIAL_FORMlSOLATED_FORMnMEDIAL_FORM
  lWITH_ALEF_MAKSURA_FINAL_FORMxHAH_INITIAL_FORMqJEEM_INITIAL_FORMrKHAH_INITIAL_FORMrYEH_FINAL_FORM
  yNOON_FINAL_FORMpREH_FINAL_FORMoYEH_FINAL_FORMkISOLATED_FORMrZAIN_FINAL_FORM
  xHAL_WITH_SUPERSCRIPT_ALEF_ISOLATED_FORMznEH_WITH_ALEF_MAKSURA_FINAL_FORMkISOLATED_FORM
  zbHEH_MEDIAL_FORMpJEEM_ISOLATED_FORMsMEEM_FINAL_FORMkINITIAL_FORMlSOLATED_FORMnMEDIAL_FORM
  qNOON_FINAL_FORMpREH_FINAL_FORMoYEH_FINAL_FORMkISOLATED_FORMrZAIN_FINAL_FORM
  zUIGHUR_KIRGHIZ_YEH_WITH_HAMZA_ABOVE_WITH_ALEF_MAKSURA_FINAL_FORMkINITIAL_FORMlSOLATED_FORM
  zzrWASALLAM_ISOLATED_FORMwYEH_WITH_ALEF_MAKSURA_FINAL_FORMkISOLATED_FORMzbHAH_INITIAL_FORM
  lSOLATED_FORMnWITH_YEH_FINAL_FORMvMZA_ABOVE_WITH_AE_FINAL_FORMkISOLATED_FORMpLEF_FINAL_FORM
  kISOLATED_FORMnMAKSURA_FINAL_FORMkISOLATED_FORMzbE_FINAL_FORMkINITIAL_FORMlSOLATED_FORM
  pHAH_INITIAL_FORMlSOLATED_FORMqEH_INITIAL_FORMmMEDIAL_FORMpJEEM_INITIAL_FORMlSOLATED_FORM
  sKHAH_INITIAL_FORMrMEEM_FINAL_FORMkINITIAL_FORMlSOLATED_FORMnMEDIAL_FORMqNOON_FINAL_FORM
  pOE_FINAL_FORMkISOLATED_FORMqREH_FINAL_FORMoU_FINAL_FORMkISOLATED_FORMpWAW_FINAL_FORM
  kISOLATED_FORMrYEH_FINAL_FORMkISOLATED_FORMqU_FINAL_FORMkISOLATED_FORMqZAIN_FINAL_FORM
  zgEH_INITIAL_FORMmMEDIAL_FORMpJEEM_INITIAL_FORMlSOLATED_FORMnWITH_YEH_FINAL_FORM
  yKHAH_INITIAL_FORMlSOLATED_FORMsMEEM_FINAL_FORMkINITIAL_FORMlSOLATED_FORMnMEDIAL_FORM
  lWITH_MEEM_FINAL_FORMkINITIAL_FORMrYEH_FINAL_FORMyNOON_FINAL_FORMpREH_FINAL_FORMoYEH_FINAL_FORM
  kISOLATED_FORMrZAIN_FINAL_FORMyZAH_WITH_MEEM_INITIAL_FORMlSOLATED_FORMnMEDIAL_FORMzjMADDA_WAAJIB
  hH_ABOVEkRK_NOON_GHUNNAlSIDEWAYS_NOON_GHUNNAxTHEMATICAL_AINcLEFeBEHdDADbLcOTLESS_BEHdFEHdNOONeQAF
  jUBLE-STRUCK_AINdBEHdDADbLdFEHdGHAINfHAHdJEEMeKHAHeLAMdMEEMeNOONeQAFdREHdSADcEENdHEENfTAHcEHcHAL
  cEHeWAWdYEHdZAHbINsFEHdGHAINfHAHdINITIAL_AINdBEHdDADdFEHdGHAINfHAHcEHdJEEMeKAFcHAHeLAMdMEEMeNOON
  eQAFdSADcEENdHEENfTEHcHEHeYEHlJEEMeKAFcHAHeLAMcOOPED_AINcLEFeBEHdDADbLdFEHdGHAINfHAHcEHdJEEMeKHAH
  eLAMdMEEMeNOONeQAFdREHdSADcEENdHEENfTAHcEHcHALcEHeWAWdYEHdZAHbINlMEEMeNOONeOPERATOR_HAH_WITH_DAL
  mMEEM_WITH_HAH_WITH_TATWEELzkQAFdREHdSADcEENdHEENeTRETCHED_AINdBEHdDADcOTLESS_BEHdFEHlFEHdGHAIN
  fHAHcEHdJEEMeKAFcHAHeMEEMeNOONeQAFdSADcEENdHEENfTAHcEHcHEHeYEHdZAHnTAHbILED_AINdDADcOTLESS_NOON
  eQAFlGHAINfHAHdJEEMeKHAHeLAMdNOONeQAFdSADcEENdHEENfYEHjEHcHALcEHeWAWdYEHdZAHbINrNUMBER_MARK_ABOVE
  kSIGNlOPEN_DAMMATANiFATHATANiKASRATANnPERCENT_SIGNlIASTRE_MARK_ABOVErLACE_OF_SAJDAH
  oOETIC_VERSE_SIGNpUND_MARK_ABOVEqQUESTION_MARKnRAISED_ROUND_DOToYcEVERSED_DAMMA
  nIGHT_ARROWHEAD_ABOVEa_WITH_DOToBELOWuOUNDED_HIGH_STOP_WITH_FILLED_CENTREzlSEMICOLONiHADDA
  a_ISOLATED_FORMnMEDIAL_FORMrIGN_ALAYHE_ASSALLAMpMISRAfRADI_ALLAHOU_ANHUpHMATULLAH_ALAYHEsSAFHA
  dLLALLAHOU_ALAYHE_WASSALLAMzbMVATeNAHeINDHI_AMPERSANDjPOSTPOSITION_MENxTAKHALLUSnMALL_DAMMA
  fFARSI_YEHhTHAfHIGH_AINdDOTLESS_HEAD_OF_KHAHuFARSI_YEHiOOTNOTE_MARKERpJEEMeLAM_ALEF
  hIGATURE_ALEF_WITH_LAM_WITH_YEHwQAF_WITH_LAM_WITH_ALEF_MAKSURAzfSAD_WITH_LAM_WITH_ALEF_MAKSURA
  zoMADDAeEEM_INITIAL_FORMlSOLATED_FORMsNOONa_WITH_KASRApQAFdROUNDED_ZEROmSADcEENdIGN_SAFHAkTAH
  cHREE_DOTSkUPRIGHT_RECTANGULAR_ZEROyWAWcORD_AL-JUZfN-NISFgR-RUBfS-SAJDAhTH-THALATHAmQIFdSAHbKTA
  fWAQFAkYEHa_BARREE_WITH_TWO_DOTS_BELOWzfZAHbINjKASRAfLOW_MEEMeNOON_WITH_KASRApSEENeWAWcORD_IMAALA
  fSHMAAMhTASHEELqWAWdYEHiTART_OF_RUB_EL_HIZBtUBSCRIPT_ALEFmKUNa_BELOWfISOLATED_FORMnMEDIAL_FORM
  pPERSCRIPT_ALEF_MOKHASSASzYMBOL_DOT_ABOVEfBELOWhUBLE_VERTICAL_BAR_BELOWzFOUR_DOTS_ABOVEfBELOW
  pRINGeSMALL_TAH_ABOVEfBELOWpTHREE_DOTS_ABOVEfBELOWfPOINTING_DOWNWARDS_ABOVEfBELOWzjWO_DOTS_ABOVE
  fBELOWfVERTICALLY_ABOVEfBELOWzWASLA_ABOVEsTAIL_FRAGMENTlTWEELa_WITH_FATHATAN_ABOVE
  oOVERSTRUCK_HAMZAfWAWoTWO_DOTS_BELOWzbHOUSANDS_SEPARATORsONE_LOOP_ABOVEfBELOWkONE_DOT_ABOVEfBELOW
  nTWO_DOTS_ABOVEfBELOWsRIPLE_DOT_PUNCTUATION_MARKzbURNED_DAMMA_BELOWsVERTICAL_TAIL
  mOWEL_SIGN_DOT_BELOWjINVERTED_SMALL_V_ABOVEwSMALL_V_ABOVEyWAVY_HAMZA_BELOWqZWARAKAY
  j-INDIC_CUBE_ROOTjDIGIT_EIGHTfFIVEdOUReNINEeONEdSEVENeIXdTHREEeWOdZEROkFOURTH_ROOTlPER_MILLE_SIGN
  kTEN_THOUSAND_SIGNzhCbIESdMENIAN_ABBREVIATION_MARKqPOSTROPHEkCAPITAL_LETTER_AYBdBENdCAbHAbEHdOcDA
  cECHcHbTcFEHdGHADdIMdHOcINIdJAbHEHeKEHbNdLIWNeMENdNOWdOHcPEHcIWReRAbEHdSEHcHAdTIWNdOcVEWcOcXEHdYI
  aWNeZAbHErOMMAfDRAM_SIGNjEMPHASIS_MARKmXCLAMATION_MARKqFULL_STOPjHYPHEN
  gMODIFIER_LETTER_LEFT_HALF_RINGzfQUESTION_MARKnSMALL_LETTER_AYBdBENdCAbHAbEHdOcDAcECHcHbTcFEH
  dGHADdIMdHOcINIdJAbHEHeKEHbNdLIWNeMENdNOWdOHcPEHcIWReRAbEHdSEHcHAdTIWNdObURNED_AYBkVEWcOcXEHdYI
  a_WITH_STROKEmWNeZAbHEjIGATURE_ECH_YIWNiMEN_ECHdINIdNOWdXEHhVEW_NOW
  zeROW_POINTING_DOWNWARDS_THEN_CURVING_LEFTWARDSjRIGHTWARDSziRIGHTWARDS_THEN_CURVING_DOWNWARDS
  jSOUTH_WESTkUPWARDSzgUPWARDS_THEN_NORTH_WESTziHEAD-SHAPED_POINTERwTICULATED_LORRYnST_PALETTE
  nSCENDING_NODElIA_SYMBOLkSERTIONhTERISKa_OPERATORkMfONISHED_FACEmRAEAdONOMICAL_SYMBOL_FOR_URANUS
  zdYMPTOTICALLY_EQUAL_TOwTHLETIC_SHOElOM_SYMBOLkUBERGINEhSTRAL_SIGNkTO_RICKSHAW
  jMATED_TELLER_MACHINEtOBILEjVESTAN_ABBREVIATION_MARKrLETTER_AaAaNbOcEaEcNbOcBEbHEdCEcDEbHEdEaEcFE
  cGEbGEcHEdHEbMEdIaIcJEcKEcLEcMEcNEbGEbVEcYEdNEcYEdOaOcPEcREcSEbHEbYEdSHEeTEbHEcTEdUaUcVEcXEbVEcYE
  dYEbYEdZEbHEqOCADOgXEdBABYa_ANGELfBOTTLEgCHICKfSYMBOLjCK_OF_ENVELOPElWITH_LEFTWARDS_ARROW_ABOVE
  zc-TILTED_SHADOWED_WHITE_RIGHTWARDS_ARROWzoSLANTED_SOUTH_ARROW_WITH_HOOKED_TAILjRIZONTAL_TAIL
  zoPACEgONcTRIAN_CAMELmDGERdMINTON_RACQUET_AND_SHUTTLECOCKzgGELcGAGE_CLAIMkUETTE_BREAD
  mLINESE_ADEG_ADEGjCARIK_PAMUNGKAHhRERENhSIKIkDIGIT_EIGHTfFIVEdOUReNINEeONEdSEVENeIXdTHREEeWOdZERO
  kLETTER_AIKARAfKARAa_TEDUNGlRCHAIC_JNYAlSYURA_SASAKmBAa_KEMBANGkCAa_LACAhDAa_MADUdURDA_ALPAPRANA
  jMAHAPRANAsEF_SASAKhKARAfGAa_GORAhHAcIKARAa_TEDUNGmJAa_JERAhKAa_MAHAPRANAkF_SASAKiHOT_SASAKkLA
  a_LENGAa_TEDUNGpMAcNAa_RAMBATiGAcYAdOKARAa_TEDUNGmPAa_KAPALiRAa_REPAa_TEDUNGoSAa_SAGAcPAhTA
  a_LATIKfMURDA_MAHAPRANApTAWAgZIR_SASAKkUKARAa_TEDUNGmVE_SASAKiWAcYAcZAL_SASAK
  qMUSICAL_SYMBOL_COMBINING_BENDEfENDEPfGONGeJEGOGANhKEMPLIa_WITH_JEGOGANpULa_WITH_JEGOGANtTEGEH
  pDAENGdINGdNGa_GEDEeSURANGkENGcUNGeINGdONGdUNGeLEFT-HAND_CLOSED_PLAKcUKlOPEN_PANGdINGdUNG
  tRIGHT-HAND_CLOSED_TAKcUKkOPEN_DAGcUGzjPAMADAa_LANTANGlENENGgNTIa_LANTANGnSIGN_BISAHfCECEK
  fREREKANhSURANGgULU_CANDRAgRICEMoVOWEL_SIGN_LA_LENGAa_TEDUNGpPEPETa_TEDUNGmRA_REPAa_TEDUNGoSUKU
  a_ILUTjTALINGa_REPAa_TEDUNGlTEDUNGmEDUNGgULUa_SARItWINDUlL_OF_YARNiET_SHOESiOONa-SPOKED_ASTERISK
  sT_BOLD_SCRIPT_XlXa_WITH_BALLOTfOLD_CHECKfSCRIPT_XnCHECKfLIGHT_XhSCRIPT_XiXkSCRIPT_XiXgMUM_COLON
  dMBINING_MARK_KOQNDONhTUKWENTISvMAfFULL_STOPjLETTER_AbEEcFAAMAEfEEcOMcUcIbKAbENbTbUXdIbOaGHOMeVUU
  ePAcUbYEEeLAbEEEEeIbOQcUcMaAbBAAcENdEEEEdNcIbObUcNAbDAAdGAbGAcKWAENgIbJAEMdEEcUAEeSHAdTEEcUUdUaAE
  dYIdObPAbEEbUXdHASE-A_FIRIeGBIEE_FONiHEUAEGHEUAEgRAEjKAFAcQcETbUKEUTNDAjPOQdUOQeLAPAQeET_KUT
  gOMMAEfUaAEPfMAEKEUPeMaBGBIEEgKPENeVEUXfNYIdSIdNSUAEfP_PIEETiBANYIdQdEUNJOMNDEUQlGBASA
  fON_NGGEUAETkOMEUTdPUQgVEUAENGAMkNAA_MFONgQcDA_LEERAEWAjANGGEUAETlENcGANGUeGENdKUE_MFONfNZEUMjIKA
  dJAMdKAARAEfINDIfSHAbIEEfTAPa_MFAAeNTAAhOQPENgYETcIaT_MONGKEUAEQoZA_MFONgUN_MEUTjPA_LEERAEWAjAM
  bRAEeMSHAEfSHAEfETcON_MFON_PIPAEMBAcGBIEEqPA_NJI_PIPAEMBAcGBIEEvUPdROMdSEUNYAMgHINDA_PA_NJIkRAE
  eOQ_NSHUT_YUMmUENSHUEThMdISAdONJAMeQbTcUUdTEUAENdTEUWENiITA_MFONiU_MAEMBAhAEPfU_YUQ_NAEiNKNOWN
  hVEEfB_FEEbUXeGHEUGHENbUAEMlKAMcEUAEMdPUQdYEUXgIEEMdQdLAANAEeM_NSHUT_NYAMnETcOM_NTEUMjMA
  a_NJEUAENAgUQAhBA_MAELEEhARAEfEURIeIT_MBAAKETkUOQeEUQbT_NGGEETkFIYAQeON_TEUAEQkONTIEENiNDU_NJAA
  hGGAAMdEU_MBUgUOQa_LARGEkKINDI_MVOPkOMdSENcHUETfTIEE_SHEUOQlYAEMAEfI_NTEUMjPARUMeEESHIfITcUNGAAM
  hSAKEUAEgET_TUfHET_NJAQgUAEQTUiIEEdUEdTAAMdU_MAEMGBIEEjNSIEEiVEUMeWUAETfYAFU_LEERAEWAmEURAE
  iC_BUNGeFUEdGBAYIeHAPbRAEgKAAcEN_FATIGUEhLAWfTbUKAQdMbSEUXdHEUAEPjPARAQfUOP_NKAARAEkTdLAMbPcIQcU
  cMA_KEUAERIhNSIEEgEMBAdSIeBAA_CABBAGE-TREEmPICKETiNYIeEEKEETfRAEdUMbXdIaRIEENfTcUAEMdEdGBASAQgIEE
  dUAEeNANSANAQgQcDAMbPcEUAEREEfTdIDAdOMBUfGAQcGENcUaAEN_NYAMiEETdMbONeKAQcUE_MAEMBAkOMdJAEMcMcEEEE
  dUXdUEQeSAbEUAENfHAQdOMcUNbOT_NGOMjTAAcENbUNGBAgU_MBIThYIR_MKPARAQ_MEUNqZAbEUMfPENcINbRIEENhRU
  cSETFONeUXdHIQcUEQeUAETfTAASHAEgETbUTEUXgITA_YUEfUAEPhVEUAEPENfXeWANGKUOQhUPdYAAcEUQdU_MUOMAEhM
  bWOQhD_FAAcEUFEUAETjGHAAcEUAEgKETbUAETMEUNhMbOT_MBUAEiPdUaNbOMcQcWAETeYEEeLEEEEdTbUAEPdMdIEEdOQ
  cUMdMaAENJETfLEERIgBAAa_SEVENiUOdEEEEdUNbTdFEUAEcTdIEEdOaNdGBEUNdIEEdOFUMgONIdUbVOPeNDAMcEEbUXdON
  dGGAAMaAEePcEUXdUOMdWAENfKAPcEUAEQdRIeIEEdUNcYEEfIbJAPcEUAEMdTdIaEEdUEQeSHEEcUTdIEEPbTeUMdTEEbUM
  dUUdUbYAMcETcIbUEePAPcEEbUTAEfIPcUQbUTeRAEMdEN_MUCHeOLDgIIdSAPbQcEUAEQfHEEbUAEcXdIIcOQcUcOTcUAEcE
  bUdTAEcEEEEdUAENdNbTdIbOQcUaOTeWAPcUAENfYAEMMAEgENcUOMbPcWOQhE_AbFAaQcEEcOMcU_CALLeIbREMEDYhEaT
  eGBETbUXeHAAMAEfETbUAEcNbXdOMeIbKETbUAEcXdIbObPEUXeUETcOPcTdLAAMcPbQcEUAEMfOMbONbTcQcUcMAaEaMcPbQ
  cBEEbUMeENcFEUQeGBAbENeIaEEdONcUAEdVIdNAaEcDAA_MY_HOUSEiSOFTNESSkPcIAQcQcUNdGAbEUREUTgGEEEEdUAEaT
  fUAESHAE_NYAMlPbRAEfKAaAMIeEUAEMdXdUMbPdOPbQcUAEaTfJAEMLIfEEa_EPOCHhUXeKOMdSHIEEdUEbOPfTAPcUM
  dYI_BETWEENhCLEAVERkZAQcUQeObPA_PEOPLEfLURALhAaMdEEMcUTbXdIaEEQcTdOaONdUaAEbQcEbMdRAEbQcEUXdIMGBA
  gSAAcEEbTcHEUAEQfIQcOaQdOMcUAENfTAAaQcEN_NTEUMiMbQcENbUaAEQfOOaNcQcUAEcMaAEfVEEbUAEeOMdWEUXdUEbO
  dYAPcEUAEaTdMbXdIEEcTcOQ_COVERfSWIMMINGlUAENdEQcNbQfF_EEcFOMdKAbENbTcObPAcUbYEEeLAbIbOQdMaAbBAA
  cENdEEEEeOcNDAAdGGAcKWAENgIbJAEMdUAEeSHAdTEEdUaAEdYIdPEEbUXdUAEeREEbNbUXdIEEcIcUcSAMBAeEUXdHIIcO
  bUcIbUUdTAAbEcETdUbVUEQeWAbUEdYAbOQkIbUAEcEdRAEcEEbNbUXdIEEcIcUcSAMBAeEUXdHEUXdIIcObUcIbUUdTAAbE
  cENbTcIcUbWAbUEdYAbOQcUQkNJAEMLIhQUESTION_MARKnSEMICOLONnNANAdJOcKaNOTE_WITH_DOLLAR_SIGN
  lEURO_SIGNjPOUND_SIGNkYEN_SIGNuR_CHARTfOF_SOAPiBER_POLEjSEBALLfKETaBALL_AND_HOOP
  qSA_VAH_COMBINING_HIGH_TONEf-LOW_TONEnLOW_TONEf-MID_TONEmMID_TONEsFULL_STOPjLETTER_AbBAcCEcDHIIdO
  cEaEbNNIeFAcGAHcBUdHWAHeIbJOcKAbPAHeMBEdOaOcPAcSEcTOcUaWUdVUcWAaDDAfYEINdIEdZOrT
  aAK_CONSONANT_SIGN_HbNGrLETTER_AbBAcCAcDAcGAcHAcIbJAcKARO_BAhLAcMAaNDAILING_HAcNAcSAmBAdNAbDAcGA
  cORTHERN_TAkYAdPAaKPAK_WAjRAcSAbIMALUNGUN_AbGAcHAcLAcMAcPAcRAcSAcWAcYAmOUTHERN_TAlUbWAcYA
  jPANGOLATfONGONANkSIGN_TOMPIjYMBOL_BINDU_JUDULfNA_METEKiPANGOLAThINARBORASxVOWEL_SIGN_EaEcI
  bKARO_IbOgObPAKPAK_EiUa_FOR_SIMALUNGUN_SAziHaTUBeTERYgEACH_WITH_UMBRELLA
  qMED_ASCENDING_MUSICAL_NOTESxDESCENDING_MUSICAL_NOTESyEIGHTH_NOTESmSIXTEENTH_NOTEStNScR_FACE
  fDED_PERSONlTING_HEARTkVEReCAUSEfDbER_MUGfTLEeLaLa_PEPPERgSYMBOLgWITH_CANCELLATION_STROKE
  zHOP_BELLkNGALI_ABBREVIATION_SIGNqNJIdU_LENGTH_MARKoCURRENCY_DENOMINATOR_SIXTEENtNUMERATOR_FOUR
  eONEa_LESS_THAN_THE_DENOMINATORzeTHREEeWOwDIGIT_EIGHTfFIVEdOUReNINEeONEdSEVENeIXdTHREEeWOdZERO
  kGANDA_MARKkISSHARgLETTER_AaAbIbUcBAbHAdCAbHAdDAbDAbHAdHAdEbGAbHAdHAcIaIcJAbHAdKAbHAaNDA_TAjLAcMA
  cNAbGAcNAcYAdObPAbHAdRAa_WITH_LOWER_DIAGONALoMIDDLE_DIAGONALwHAcRAdSAbHAcSAdTAbHAcTAbHAeUaU
  cVEDIC_ANUSVARAnOCALIC_LaLcRaRkYAbYAkRUPEE_MARKeSIGNkSANDHI_MARKkIGN_ANUSVARAhVAGRAHAiCANDRABINDU
  lNUKTAfVIRAMAeSARGAmVOWEL_SIGN_AAbIbUcEbIaIcObUaUcVOCALIC_LaLcRaR
  zbT_ARROW_POINTING_DOWNWARDS_THEN_NORTH_EASTzqO_BOXgZENE_RINGa_WITH_CIRCLEwT_SYMBOLhWEEN
  fVERAGE_BOXlHAIKSUKI_DANDAeIGIT_EIGHTfFIVEdOUReNINEeONEdSEVENeIXdTHREEeWOdZEROjOUBLE_DANDA
  mGAP_FILLER-1b2mHUNDREDS_UNIT_MARKsLETTER_AaAbIbUcBAbHAdCAbHAdDAbDAbHAdHAdEbGAbHAdHAcIaIcJAbHAdKA
  bHAdLAcMAcNAbGAcNAcYAdObPAbHAdRAcSAbHAcSAdTAbHAcTAbHAeUaUcVAbOCALIC_LbRaRkYAjNUMBER_EIGHTaYgFIFTY
  dVEdORTYdUReNINEaTYgONEdSEVENaTYgIXaTYfTENcHIRTYeREEeWENTYeOkSIGN_ANUSVARAhVAGRAHAiCANDRABINDU
  lVIRAMAeSARGAmVOWEL_SIGN_AAbIbUcEbIaIcObUaUcVOCALIC_LbRaRvWORD_SEPARATORxICYCLEbIST
  hG_REVERSE_SOLIDUSpSOLIDUSjKINIeLLED_CAPgIARDShOHAZARD_SIGNmRDbTHDAY_CAKElSONdTCOIN_SIGNjING_LIP
  jLACK_BOWTIEgCENTRE_WHITE_STARqHESS_BISHOPa_ROTATED_NINETY_DEGREESoTWO_HUNDRED_SEVENTY_DEGREES
  zrEQUIHOPPERa_ROTATED_NINETY_DEGREESziKINGa_ROTATED_NINETY_DEGREESoTWO_HUNDRED_SEVENTY_DEGREES
  zoNIGHTa_ROTATED_FORTY-FIVE_DEGREESsNINETY_DEGREESoONE_HUNDRED_THIRTY-FIVE_DEGREES
  zgTHREE_HUNDRED_FIFTEEN_DEGREESzdWO_HUNDRED_SEVENTY_DEGREESpTWENTY-FIVE_DEGREESzp-BISHOPgQUEEN
  fROOKlPAWNa_ROTATED_NINETY_DEGREESoTWO_HUNDRED_SEVENTY_DEGREESzpQUEENa_ROTATED_NINETY_DEGREES
  oTWO_HUNDRED_SEVENTY_DEGREESzqROOKa_ROTATED_NINETY_DEGREESoTWO_HUNDRED_SEVENTY_DEGREES
  zpTURNED_BISHOPgKINGdNIGHTgPAWNeQUEENfROOKqIRCLEa_FOR_RECORDkWITH_DOWN_ARROWkTWO_WHITE_DOTS
  oWHITE_DOT_RIGHTzbLUB_SUITiROSS_ON_SHIELDoURVED_DOWNWARDS_AND_LEFTWARDS_ARROWpRIGHTWARDS_ARROW
  zfLEFTWARDS_AND_DOWNWARDS_ARROWpUPWARDS_ARROWzcRIGHTWARDS_AND_DOWNWARDS_ARROWpUPWARDS_ARROW
  zdUPWARDS_AND_LEFTWARDS_ARROWpRIGHTWARDS_ARROWzkDIAMONDa_CENTREDhMINUS_WHITE_XnON_CROSSiSUIT
  eWITH_DOWN_ARROWwOWN_POINTING_BACKHAND_INDEXy-POINTING_DOUBLE_TRIANGLEpISOSCELES_RIGHT_TRIANGLE
  ySMALL_TRIANGLEoTRIANGLEsWARDS_EQUILATERAL_ARROWHEADzfRAUGHTS_KINGeMANkOPLEThFLAGcORETTEhOLDER
  eUR_POINTED_STARrHARD_SHELL_FLOPPY_DISKvEARTa_SUITiXAGONgORIZONTAL_ELLIPSEqURGLASSjLARGE_CIRCLE
  gSQUARElEFT_LANE_MERGEkPOINTING_BACKHAND_INDEXoINDEXp-POINTING_DOUBLE_TRIANGLEa_WITH_VERTICAL_BAR
  ziISOSCELES_RIGHT_TRIANGLEyPOINTERhSMALL_TRIANGLEoTRIANGLEsWARDS_BULLETgEQUILATERAL_ARROWHEAD
  zfOWER_LEFT_TRIANGLEnRIGHT_TRIANGLEsZENGEhMEDIUM_DIAMONDgOWN-POINTING_TRIANGLEa_CENTRED
  zfLEFT-POINTING_TRIANGLEa_CENTREDzeOZENGEhRIGHT-POINTING_TRIANGLEa_CENTREDzgSMALL_DIAMONDhLOZENGE
  hSQUARElQUAREgUP-POINTING_TRIANGLEa_CENTREDzjOON_LILITHlNIBdOCTAGONhPARALLELOGRAMmENNANTeTAGON
  hUSHPINhQUESTION_MARK_ORNAMENTwRECTANGLEiIGHT_POINTING_BACKHAND_INDEXoINDEX
  p-POINTING_DOUBLE_TRIANGLEa_WITH_VERTICAL_BARziISOSCELES_RIGHT_TRIANGLEyPENTAGONhOINTER
  hSMALL_TRIANGLEoTRIANGLEa_WITH_DOUBLE_VERTICAL_BARzsWARDS_ARROWaHEADjBULLETgEQUILATERAL_ARROWHEAD
  zgOSETTEhSAFETY_SCISSORSoCISSORShHOGI_PIECEkKULL_AND_CROSSBONEStLIGHTLY_SMALL_CIRCLEgSQUARE
  uMALL_DIAMONDhLOZENGEhSQUAREfTARiILING_FACElNOWMANgPADE_SUITjQUAREa_BUTTONgCENTREDhFOR_STOPoTAR
  dUN_WITH_RAYSnTELEPHONEiINY_DIAMONDhLOZENGEhSQUAREkOUCHTONE_TELEPHONEsRUCK
  eWO-WAY_LEFT_WAY_TRAFFICyUNIVERSAL_RECYCLING_SYMBOLzP_POINTING_BACKHAND_INDEX
  y-POINTING_DOUBLE_TRIANGLEpISOSCELES_RIGHT_TRIANGLEySMALL_TRIANGLEoTRIANGLEsPER_LEFT_TRIANGLE
  nRIGHT_TRIANGLEsWARDS_EQUILATERAL_ARROWHEADzeVERTICAL_ELLIPSEhRECTANGLEpY_SMALL_DIAMONDhLOZENGE
  hSQUAREs-FEATHERED_NORTH_EAST_ARROWqRIGHTWARDS_ARROWqSOUTH_EAST_ARROWzbLETTER_CAPITAL_CbHbIbRbZ
  tNK_SYMBOLkOCK_SEXTANT-1a2a3a4a5b6c5a6c6c4a5a6c6c5a6c6c3a4a5a6c6c56c6c4a5a6c6c5a6c6c2a3a4a5a6c6c5
  a6c6c4a5a6d5a6c6c3a4a5a6c6c5a6c6c4a5a6c6c5a6c6mSSOMeWFISHgUE_BOOKeHEARTgBERRIESkOAR
  cLD_EIGHT_SPOKED_ASTERISKvFIVE_SPOKED_ASTERISKuGREEK_CROSSlSALTIREgIX_SPOKED_ASTERISK
  tWHITE_CIRCLEgSQUAREpMaBcNEcOKaMARKa_TABSjScMERANGhPOMOFO_FINAL_LETTER_GbHbKbPbToLETTER_AaHbIaNN
  dMbNaGbNcUaNNeBaUcCaHcDbEaEbHbIbNaGbNcRcFbGaHbNbUbWcHbIaHbMbNNaNdRbUcJaIcKaWcLaHcMbNaGaGcNcO
  a_WITH_DOT_ABOVEpEbMbNGbNcObUcPbQbRbSaHcTbUaNNdVbXbZaHbIbYqTTLE_WITH_POPPING_CORK
  uOM_ARC_ANTICLOCKWISE_ARROWxCURLY_BRACKETnHALF_BLACK_CIRCLEmINTEGRALiLEFT_PARENTHESIS
  qRIGHT_PARENTHESISwLEFT_CORNERfROPeHALF_BRACKETrPARENTHESISlRIGHT_CORNERfROPeHALF_BRACKET
  sSQUARE_BRACKETa_OVER_TOP_SQUARE_BRACKETznTORTOISE_SHELL_BRACKETzcUQUETa_OF_FLOWERSqW_AND_ARROW
  kL_OF_HYGIEIAkWITH_SPOONlINGeTIEa_WITH_LEFT_HALF_BLACKpRIGHT_HALF_BLACK
  zbX_DRAWINGS_DOUBLE_DOWN_AND_HORIZONTALkLEFTeRIGHToHORIZONTALkUP_AND_HORIZONTALkLEFTeRIGHT
  mVERTICALa_AND_HORIZONTALkLEFTeRIGHTxWN_DOUBLE_AND_HORIZONTAL_SINGLErLEFT_SINGLElRIGHT_SINGLE
  xHEAVY_AND_HORIZONTAL_LIGHTqLEFT_LIGHTfUP_LIGHTnRIGHT_LIGHTfUP_LIGHToUP_HORIZONTAL_LIGHT
  zeLIGHT_AND_HORIZONTAL_HEAVYqLEFT_HEAVYfUP_HEAVYnRIGHT_HEAVYfUP_HEAVYoUP_HORIZONTAL_HEAVY
  zeSINGLE_AND_HORIZONTAL_DOUBLErLEFT_DOUBLElRIGHT_DOUBLEzdHEAVY_DOUBLE_DASH_HORIZONTALkVERTICALsWN
  a_AND_HORIZONTALkLEFTeRIGHToHORIZONTALkLEFTa_AND_LIGHT_RIGHTuQUADRUPLE_DASH_HORIZONTALkVERTICAL
  xRIGHTfTRIPLE_DASH_HORIZONTALkVERTICALuUPa_AND_HORIZONTALkLEFTdIGHT_DOWNkRIGHTmVERTICAL
  a_AND_HORIZONTALkLEFTeRIGHTyLEFT_DOWN_HEAVY_AND_RIGHT_UP_LIGHTzeHEAVY_AND_RIGHT_DOWN_LIGHT
  kUP_LIGHTiVERTICAL_LIGHTzfLIGHT_AND_RIGHT_DOWN_HEAVYkUP_HEAVYiVERTICAL_HEAVY
  zfUP_HEAVY_AND_RIGHT_DOWN_LIGHTziIGHT_ARC_DOWN_AND_LEFTeRIGHToUP_AND_LEFTeRIGHTqDIAGONAL_CROSS
  fDIAMONDhMIDDLE_LEFT_TO_LOWER_CENTREa_TO_MIDDLE_RIGHTzdUPPER_CENTRE_TO_MIDDLE_RIGHT
  a_TO_LOWER_CENTREzzcRIGHT_TO_LOWER_CENTREmUPPER_CENTRE_TO_MIDDLE_LEFT_TO_LOWER_CENTRE
  zzjUPPER_CENTRE_TO_MIDDLE_LEFTa_AND_MIDDLE_RIGHT_TO_LOWER_CENTREzhTO_LOWER_CENTRE
  a_TO_MIDDLE_RIGHTzlRIGHTa_AND_MIDDLE_LEFT_TO_LOWER_CENTREzgTO_LOWER_CENTREa_TO_MIDDLE_LEFT
  zzdLEFT_TO_LOWER_RIGHTtRIGHT_TO_LOWER_LEFTziOUBLE_DASH_HORIZONTALkVERTICALsWNa_AND_HORIZONTAL
  kLEFTeRIGHToHORIZONTALa_WITH_VERTICAL_STROKEzgLEFTa_AND_HEAVY_RIGHTuQUADRUPLE_DASH_HORIZONTAL
  kVERTICALxRIGHTfTRIPLE_DASH_HORIZONTALkVERTICALuUPa_AND_HEAVY_DOWNjORIZONTALkLEFTeRIGHTmVERTICAL
  a_AND_HORIZONTALkLEFTeRIGHTyRIGHT_DOWN_HEAVY_AND_LEFT_UP_LIGHTzdHEAVY_AND_LEFT_DOWN_LIGHT
  kUP_LIGHTiVERTICAL_LIGHTzeLIGHT_AND_LEFT_DOWN_HEAVYkUP_HEAVYiVERTICAL_HEAVY
  zeUP_HEAVY_AND_LEFT_DOWN_LIGHTzjUP_DOUBLE_AND_HORIZONTAL_SINGLErLEFT_SINGLElRIGHT_SINGLE
  xHEAVY_AND_DOWN_HORIZONTAL_LIGHTvHORIZONTAL_LIGHTqLEFT_DOWN_LIGHTkLIGHTkRIGHT_DOWN_LIGHTkLIGHT
  vLIGHT_AND_DOWN_HORIZONTAL_HEAVYvHORIZONTAL_HEAVYqLEFT_DOWN_HEAVYkHEAVYkRIGHT_DOWN_HEAVYkHEAVY
  vSINGLE_AND_HORIZONTAL_DOUBLErLEFT_DOUBLElRIGHT_DOUBLEzbVERTICAL_DOUBLE_AND_HORIZONTAL_SINGLE
  rLEFT_SINGLElRIGHT_SINGLExHEAVY_AND_HORIZONTAL_LIGHTqLEFT_LIGHTkRIGHT_LIGHT
  vLIGHT_AND_HORIZONTAL_HEAVYqLEFT_HEAVYkRIGHT_HEAVYvSINGLE_AND_HORIZONTAL_DOUBLErLEFT_DOUBLE
  lRIGHT_DOUBLEzrING_GLOVEkYaS_SYMBOLkPHcRAHMI_DANDAeIGIT_EIGHTfFIVEdOUReNINEeONEdSEVENeIXdTHREEeWO
  dZEROjOUBLE_DANDAmLETTER_AaAbIbUcBAbHAdCAbHAdDAbDAbHAdHAdEbGAbHAdHAcIaIcJAbHAdKAbHAdLAbLAdMAcNA
  bGAcNAcYAdOaLD_TAMIL_LLAbLAeNNNAeRRAdSHORT_EbOrPAbHAdRAcSAbHAcSAdTAbHAcTAbHAeUaUcVAbOCALIC_LaLcR
  aRkYAjNUMBER_EIGHTaYgFIFTYdVEdORTYdUReJOINERgNINEaTYgONEa_HUNDREDhTHOUSANDmSEVENaTYgIXaTYfTEN
  cHIRTYeREEeWENTYeOkPUNCTUATION_CRESCENT_BARmDOTbUBLE_DOTkLINEdOTUSrSIGN_ANUSVARAiCANDRABINDU
  lJIHVAMULIYAlOLD_TAMIL_VIRAMAqUPADHMANIYAlVISARGAmVIRAMAfOWEL_SIGN_AAbIbUcBHATTIPROLU_AAoEbIaIcO
  aLD_TAMIL_SHORT_EbOrUaUcVOCALIC_LaLcRaRzILLE_PATTERN_BLANKfDOTS-1a2a3a4a5a6a7a8c8c7a8c8c6a7a8c8c7
  a8c8c5a6a7a8c8c7a8c8c6a7a8c8c7a8c8c4a5a6a7a8c8c7a8c8c6a7a8c8c7a8c8c5a6a7a8c8c7a8c8c6a7a8c8c7a8c8
  c3a4a5a6a7a8c8c7a8c8c6a7a8c8c7a8c8c5a6a7a8c8c7a8c8c6a7a8c8c7a8c8c4a5a6a7a8c8c7a8c8c6a7a8c8c7a8c8
  c5a6a7a8c8c7a8c8c6a7a8c8c7a8c8c2a3a4a5a6a7a8c8c7a8c8c6a7a8c8c7a8c8c5a6a7a8c8c7a8c8c6a7a8c8c7a8c8
  c4a5a6a7a8c8c7a8c8c6a7a8c8c7a8c8c5a6a7a8c8c7a8c8c6a7a8c8c7a8c8c3a4a5a6a7a8c8c7a8c8c6a7a8c8c7a8c8
  c5a6a7a8c8c7a8c8c6a7a8c8c7a8c8c4a5a6a7a8c8c7a8c8c6a7a8c8c7a8c8c5a6a7a8c8c7a8c8c6a7a8c8c7a8c8sN
  dEADbK_PERMITTED_HEREqST-FEEDINGlVEdICKcDE_WITH_VEILlGE_AT_NIGHTmEFCASEeSeOCCOLIfKEN_BAR
  dCIRCLE_WITH_NORTHWEST_ARROWzcHEARTjOMcWN_HEARTkSbUBBLE_TEAeSfCKETeGaINESE_END_OF_SECTION
  oLETTER_AbBAcCAcDAcGAcHAcJAcKAcLAcMAbPAdNAbGAbKAdRAcYAbCAePAcRAcSAcTAcVAcYAjPALLAWAhVOWEL_SIGN_AE
  cEbIbObUtHID_LETTER_AbBAcDAcGAcHAcIbKAcLAcMAcNAbGAdPAcRAcSAcTAcUbWAcYAjVOWEL_SIGN_IbU
  qILDING_CONSTRUCTIONtLLETa_OPERATORlHORNa_WITH_SOUND_WAVESvSEYEgRRITOfSa_STOPfT_IN_SILHOUETTE
  oS_IN_SILHOUETTErTTERaFLYiYTE_ORDER_MARKnZANTINE_MUSICAL_SYMBOL_AGOGI_ARGIbOTERIiGORGIbOTERIjMESI
  cTRIAgPOLI_ARGIeGORGIpNATRICHISMAkTIKENOKYLISMAhMAjPESO_EKFONITIKONkXO_NEOlLIcODERMA_ARCHAIONiNEO
  jSTROFOI_SYNDESMOS_NEOnTELOUS_ICHIMATOSsSa_DIPLIfNEOlTHEMAhRGONbSYNTHETONlKTIKO_DIcGAcKEcNIcPA
  cVOUdZOkCHAMILIbONgOREVMA_ARCHAIONiNEOkROA_KLITONgSPATHIgZYGOSlDASEIAfIARGONeSTOLI_APLI_MEGALI
  fIKRIkDIPLIfTHESEOSoESIS_APLI_DYO_DODEKATArDIGRAMMOS_EX_DODEKATAvMONOGRAMMOS_TESSERA_DODEKATA
  zdTETARTIMORIONmRIGRAMMOS_OKTO_DODEKATAvTIMORIONqFTOGGOS_OUkGORGONa_PARESTIGMENON_ARISTERA_ANO
  dKATOnDEXIAzRAMMA_GGjPLIa_ARCHAIONnYOdEKSTREPTONjLAFRONgNARXIS_KAI_FTHORA_VOUuDOFONONiPEGERMA
  hTERON_ARGOSYNTHETONnPARAKALESMArXO_EKFONITIKONpFANEROSIS_DIFONIASiMONOFONIASkTETRAFONIAS
  uHTORA_SKLIRON_CHROMA_VASISzbTHORA_ARCHAIONa_DEYTEROU_ICHOUxDIATONIKI_DIcKEcNANAdI_ANOdKATOhPAcZO
  mENARMONIOS_ANTIFONIAuI_YFESIS_TETARTIMORIONwMALAKON_CHROMA_DIFONIASiMONOFONIASzNAOS_ICHOSjENANO
  gSKLIRON_CHROMA_SYNAFIgVASISmDIATONON_DIzbGENIKI_DIESISgYFESISmORGON_ARCHAIONiNEO_ANOdKATO
  iPARESTIGMENON_ARISTERAiDEXIAvSYNTHETONlTHMIKON_N_APLOUNgDIPLOUNtRONTHISMATAmICHADINgMIDIARGON
  hFONONeTHORAbONjSAKIA_TELOUS_ICHIMATOSvON_ARCHAIONiNEOiKATAVA_TROMIKONjSMAgHISTIhENTIMA_ARCHAION
  iNEO_ANOdKATOeMESOjTAa_ARCHAIONiNEO_ANOdKATOeMESOrLASMAa_ANOdKATOkONTEVMAa_ALLOlRONISfUFISMA
  hRATIMA_ALLOdRCHAIONiNEOeTAdOKOUFISMAiYPORROONnEMASTIhYLISMAhLEIMMA_DYO_CHRONONlENOS_CHRONOU
  mIMISEOS_CHRONOUpTESSARON_CHRONONpRION_CHRONONsMOIeYGISMAhMARTYRIA_ALLI_DEYTEROS_ICHOS
  oPROTOS_ICHOSrDEYTEROS_ICHOSoLEGETOS_ICHOSnPLAGIOS_ICHOSfTETARTOS_ICHOSvROTOS_ICHOShVARYS_ICHOS
  qTETARTOS_ICHOSfLEGETOS_ICHOSvRIFONIASgTOS_ICHOSmVARYS_ICHOStIKRON_ISONlNANAeOLIGON_ARCHAIONiNEO
  jMALONfXEIA_DIPLIfEKFONITIKONlNEOeI_ARCHAIONoYRANISMA_ARCHAIONiNEOnPARAKALESMA_ARCHAIONiNEO
  kLITIKIa_ARCHAIONiNEOmICHONhELASTONa_NEOkRISPOMENIjTASMAcTIbOKOUFISMAoIASMA_ARCHAIONiNEO
  jSIFISTOLYGISMAhNa_NEOfPARAKALESMAlSYNAGMAmLIbONgRAPISMAgEVMAfSAXIMATAhEISMAa_NEOjIMANSIS_ARSEOS
  a_DISIMOUhTETRASIMOUjRISIMOUpTHESEOSa_DISIMOUhTETRASIMOUjRISIMOUyTAVROSa_APODEXIAoIGMAeRAGGISMATA
  lYNAGMA_ARCHAIONiMETA_STAVROUmNEOiEVMAfRMAaTIKIjTELEIAeSSERAfTRAPLIhHEMAa_APLOUNhTISMOS_ESOcXO
  mS_KAI_APOTHESoITAeINAGMAgRIAbGORGONgPLIeOMIKOLYGISMAhN_ALLOdRCHAIONiNEOfPARAKALESMAkSIFISTON
  jSYNAGMAoVAREIA_DIPLIfEKFONITIKONlNEOeI_ARCHAIONoTHYfXIRON_KLASMAmYFEN_ANOdKATO
  gSIS_APLI_DYO_DODEKATArDIGRAMMOS_EX_DODEKATAvMONOGRAMMOS_TESSERA_DODEKATA
  zdTRIGRAMMOS_OKTO_DODEKATAvTIMORIONrPOKRISISa_DIPLImRROIfSILIzgCACTUSeDA_UNAfUCEUSgLENDAR
  fL_ME_HANDkMERAa_WITH_FLASHoPINGfNaADIAN_SYLLABICS_AaAaIbYcIaVILIK_BiNbTHAPASCAN_MbSlY
  cBEAVER_DENE_LbRmIBLE-CREE_YlLACKFOOT_AbEbIbKAbEbIbOcNAbEbIbOcObSbWaAbEbIbOmCaAaAaIcRRIER_CHAbEaE
  cIbObUdDEEbNE_GEEfTAL_ShIbLAbEaEcIbObUcZAbEaEcIbObUdEEcGAaAcEaEcHAbEaEcIbObUcIbObUbWAbUdHaEEcIbWA
  bEaEcIbObUdIaNITIAL_ZjJAbEaEcIbJAbEaEcIbObUcObUbWAdKHAbEaEcIbObUcKaAbEaEcIbObUdLAbEaEcHAbEaEcIbO
  bUcIbObUcMAbEaEcIbObUcNAbEaEcGbIbObUcPaAbEaEcIbObUcRAbEaEcIbObUcSAbEaEcHaAbEaEcIbObUcIbObUcTHAbE
  aEcIbObUcLAbEaEcHAbEaEcIbObUcIbObUcSAbEaEcIbObUcTAbEaEcIbObSAbEaEcIbObUcUdWAbEaEcIbObUcYAbEaEcIbO
  bUcZaAbEaEcIbObUjEbHI_SIGNhIaIcOaOcWAaAcEbIaIcOaOeEaASTERN_WiNcFaAaAaIdEbIaIbNAL_ACUTE
  fBOTTOM_HALF_RINGqDOUBLE_ACUTEfSHORT_VERTICAL_STROKESzcWN_TACKjGRAVEfMIDDLE_DOTkPLUSeRAISED_DOT
  jIGHT_HALF_RINGnNGeSHORT_HORIZONTAL_STROKEwMALL_RINGkTOP_HALF_RINGsOaOcULL_STOPiWAAeGLOTTAL_STOP
  mHKbYPHENgIaIbNcKaAaAaIcYcEbIaIcOaOcWaAaAbYcEbIaIcOaOeLaAaAaIcYcEbHaAaAcIaIcOaOdIaIcOaOcWAaAcEbI
  aIcOaOeMaAaAaIcYcEaDIAL_LbRhHbIaIcOaOaSE-CREE_SKmWAaAcEbIaIcOaOeNa-CREE_THEbIaIkAaAaIcSKAPI_CWAA
  eKWAAeMWAAeNWAAeS-WcCWAdKWaAdPWAdTWAdWAAeTWAAeWAAcOOdYWAAkTTILIK_HAaAcIaIcOaOdSHRAaAcIaIcOaOmYcE
  bGaAaAaIcIcIaIcOaOdHbIaIcNGaAaAcIaIcOaOeOaObYcUNAVIK_HaAaAcEbIaIcOaOgUT_HiWAaAcEbIaIcOaOeO
  aJIBWAY_CbKbMbNaWIaIcOaOePbSaHcTiNbObYcPaAaAaIcYcEbIaIcOaObYcWAaAcEbIaIcOaObYeQaAaAaIcIcIaIcOaOdR
  a-CREE_REbWEjAaAaIcYcEbIaIcOaOcWAaAcEEcIaIcOaOeSaAaAaIcYaISI_HAbEbIbOaOdJIbUaUdMbSHAbEbIbOaOcWE
  eTHcYIiEbHaAaAbYcEbIaIcOaObYcWAaAcEbIaIcOaObYeIaIcOaObUTH-SLAVEY_KAHcEHcIHcOHoYcPAbEbIbOcWaAaAcE
  bIaIcOaOeTaAaAaIcYcEbHa-CREE_THaAaAcEbIaIcOaOkAaAcEbIaIcOaOcWAaAcEdIaIcLHAbEbIbOaOcWEeOaOcTAbEbH
  aAaAcEbIbOaOcWEdIbOcWAaAcEbIaIcOaOdYAbEbIbOdWAaAbYcEaST-CREE_CWAaAcEbIaIcOaOeFWAAeKWAaAcEbIaIcOaO
  eLaAaAcEbOaOcWAaAcEbIaIcOaOeMaWAaAcEbIaIcOaOeNWAaAcEdPaWAaAcEbIaIcOaOeRaAbEbIbObWAAeSHWAaAcEbIaI
  cOaOeWAaAcEbIaIcOaOeTHWAAeWAaAcEbIaIcOaOeWAaAcEbIaIcOaOdYaWAaAcEbIaIcOaOkERN_WiIaIcOaO
  aDS-CREE_FINAL_THiTHaAbEbIbObWAaAcEEcIaIcOaOqYa-CREE_COOdKOOdLOOdMOOdNOOdOOcPOOcWAAeSOOdTOOdWbYOO
  jAaAaIcYcEbIaIcOaObYcWAaAcEbIaIcOaOuCELa_CHARACTERjTAGeLATION_XjRdDLEcYcNED_FOODiOEdPITULUM
  gRICORNhR_SLIDINGiD_FILE_BOXiINDEXa_DIVIDERSqE_OFdTa_INSERTION_POINTsIAN_LETTER_Aa2cBbC-18c39eDa2
  cEa2cGa2cIaIcKa2cLaDa2dMaBa2b3b4dNaDbGbNcObPa2cQbRaRcSaHa2cSbTa2dTaTa2dUaUaUa2b3bUeXmON
  bUSEL_HORSElP_STREAMERjENTRY_SAWkRIAGE_RETURNlOTeSTLEeTa_FACEa_WITH_TEARS_OF_JOYmWRY_SMILE
  vUCASIAN_ALBANIAN_CITATION_MARKnLETTER_ALTcORdBETdCARbYNdHAaTcIbOYdYAWbYeDATcYANdZAYcYAYfEBbYN
  dFAMdGHEYSeIMdHEYTeINYAdRBcWNdJAYNdHOXeKARcIWdLANcYITeMAQdNOWCeONcPENcIWReQARbYdRATdSEYKdHAaKcOY
  eTAScIWRdYAYeVEYZeXEYNeYAYDdOWDeZARLdHAbILzcTION_SIGNlCHcEDI_SIGNfLLAfLTIC_CROSSkNT_SIGN
  fRE_LINE_SYMBOLmLINE_LOW_LINEiOVERLINErRESeGJcHAINScRcKMA_AU_MARKhDANDAeIGIT_EIGHTfFIVEdOUReNINE
  eONEdSEVENeIXdTHREEeWOdZEROjOUBLE_DANDAmLETTER_AAcBAAcHAAeCAAcHAAeDAAcDAAcHAAeHAAeEbGAAcHAAeHAAdI
  bJAAcHAAeKAAcHAAeLAAcHAAeMAAdNAAcGAAdNAAdYAAePAAcHAAeRAAdSAAdTAAcHAAdTAAcHAAfUbVAAdWAAdYAAcYAA
  lMAAYYAAhO_MARKgQUESTION_MARKnSECTION_MARKlIGN_ANUSVARAiCANDRABINDUlVISARGAmVIRAMAfOWEL_SIGN_AaA
  bIbUcEaIcIaIcOaIcUaUrM_CONSONANT_SIGN_FINAL_HbMbNGiLAcRAcWAcYArDIGIT_EIGHTfFIVEdOUReNINEeONE
  dSEVENeIXdTHREEeWOdZEROkLETTER_AaIcBAbBAcHAdCHAbHAeDAbDAcHAdEbFINAL_CHcGbKbLbNaGcPbRbSScTbYhGAbHA
  dHAcIbJAbHAdKAbHAdLAcMAbUEdNAbGAbUEdHAbJAcUEdUEdObPAbHAcPAdRAcSAbSAdTAbHAdUbVAcYA
  jPUNCTUATION_DANDAeOUBLE_DANDAmSPIRALgTRIPLE_DANDAyVOWEL_SIGN_AAbIbUcEIcIaIcOaEcUaE
  pRACTER_TABULATIONa_SETdWITH_JUSTIFICATIONzdIEjT_WITH_DOWNWARDS_TRENDpUPWARDS_TRENDa_AND_YEN_SIGN
  zkECK_MARKfER_BOARDa_FILLpERING_MEGAPHONEoSE_WEDGEjQUERED_FLAGlROKEE_LETTER_AbDAbEbIbLAcObUbVcE
  bGAbEbIbObUbVcHAbEbIbNAcObUbVcIbKAcLAbEbIbObUbVcMAbEbIbObUbVcNAaHcEbIbObUbVcObQUAbEbIbObUbVdSaAbE
  bIbObUbVcTAbEbIbLAbEbIbObUbVcSAbEbIbObUbVdUbVbWAbEbIbObUbVcYAbEbIbObUbVjSMALL_LETTER_AbDAbEbIbLA
  cObUbVcEbGAbEbIbObUbVcHAbEbIbNAcObUbVcIbKAcLAbEbIbObUbVcMAbEbIbObUbVcNAaHcEbIbObUbVcObQUAbEbIbObU
  bVdSaAbEbIbObUbVcTAbEbIbLAbEbIbObUbVcSAbEbIbObUbVdUbVbWAbEbIbObUbVcYAbEbIbObUbVuRIESdY_BLOSSOM
  lSTNUTgI_RHOeCKENeLDaREN_CROSSINGoPMUNKfRONeOCOLATE_BARkPSTICKShRASMIAN_LETTER_ALEPHeYINeBETH
  eCURLED_WAWkDALETHgGIMELfHEaTHeKAPHeLAMEDHgMEMdNUNdPEcRESHeSAMEKHfHINdMALL_ALEPHlTAWdWAWdYODH
  eZAYINmNUMBER_FOUReONEa_HUNDREDlTENcHREEeWENTYeOtRISTMAS_TREEmURCHfINEMA
  eRCLE_DIVIDED_BY_HORIZONTAL_BAR_AND_TOP_HALF_DIVIDED_BY_VERTICAL_BAR
  zzmWITH_ALL_BUT_UPPER_LEFT_QUADRANT_BLACKziHORIZONTAL_BARoLEFT_HALF_BLACKoOWER_HALF_BLACK
  qRIGHT_HALF_BLACKqSMALL_CIRCLE_TO_THE_RIGHTyUPERIMPOSED_XoTWO_HORIZONTAL_STROKES_TO_THE_RIGHT
  zkUPPER_HALF_BLACKkRIGHT_QUADRANT_BLACKzbVERTICAL_FILLtD_ANTICLOCKWISE_ARROW
  g-ROTATED_DIVISION_SIGNzjSTERISK_OPERATORrBOLD_XfULLETgC_WITH_OVERLAID_BACKSLASHyCbDbROSS_FORMEE
  a_WITH_FOUR_DOTSjTWO_DOTSuPOMMEEhING_LANESoDASHdIGIT_EIGHTfFIVEdOUReNINEeONEdSEVENeIXdTHREEeWO
  dZEROiVISION_SIGNdLASHnOLLAR_SIGN_WITH_OVERLAID_BACKSLASHziT_OPERATORmEQUALSgGREATER-THAN
  mHANGUL_CHIEUCHa_AiIEUCa_AhHIEUHa_AhIEUNGa_AbUhKHIEUKHa_AiIYEOKa_AiMIEUMa_AhNIEUNa_AhPHIEUPHa_A
  iIEUPa_AhRIEULa_AhSIOSa_AgTHIEUTHa_AiIKEUTa_AoEAVY_WHITE_RIGHTWARDS_ARROW
  zcORIZONTAL_BAR_WITH_NOTCHyUMAN_FIGUREmIDEOGRAPH_ACCEPTfDVANTAGEiLLIANCEhTTENTIONjCENTRE
  fONGRATULATIONmPYcRRECThEARTHeIGHTeNTERPRISEjXCELLENTjFEMALEfINANCIALhREcVEdOUReHAVEdIGHeITEM
  eKINDERGARTENlOTOeLABOReEFTdOWdMALEdEDICINEgTALeOONeNAMEdIGHTdNEeONEdPRINTfQUESTIONiRELIGION
  gSOURCEfTdIGHTfSCHOOLfECRETeVENeIXcOCIETYgPECIALgTOCKdUDYeUITABLEgNbPERVISEjTENcHREEeWOdWATEReOOD
  nNFORMATION_SOURCErTALIC_LATIN_CAPITAL_LETTER_CbRzeKATAKANA_AbEbHAbEbIbObUcIbKAbEbIbObUcMAbEbIbO
  bUcNAbEbIbObUcObRAbEbIbObUcSAbEbIbObUcTAbEbIbObUcUbWAbEbIbOcYAbObUkOREAN_CHARACTER_CHAMKOgJUEUI
  wLATIN_CAPITAL_LETTER_AbBbCbDbEbFbGbHbIbJbKbLbMbNbObPbQbRbSbTbUbVbWbXbYbZqSMALL_LETTER_AbBbCbDbE
  bFbGbHbIbJbKbLbMbNbObPbQbRbSbTbUbVbWbXbYbZtESS-THANjMINUS
  eULTIPLICATION_SIGN_WITH_CIRCUMFLEX_ACCENTzrNUMBER_EIGHTEENdY_ON_BLACK_SQUAREvLEVENgFIFTEENdY
  a_ON_BLACK_SQUAREuORTYa_EIGHTfFIVEdOUReNINEeON_BLACK_SQUAREnEdSEVENeIXdTHREEeWOhURTEENiNINETEEN
  iSEVENTEENdY_ON_BLACK_SQUAREwIXTEENdY_ON_BLACK_SQUAREvTENa_ON_BLACK_SQUAREsHIRTEENdYa_EIGHTfFIVE
  dOUReNINEeON_BLACK_SQUAREnEdSEVENeIXdTHREEeWOjWELVEdNTYa_EIGHTfFIVEdOUReNINEeON_BLACK_SQUAREnE
  dSEVENeIXdTHREEeWOrOPEN_CENTRE_EIGHT_POINTED_STARzfPARALLELhERPENDICULARmLUSdOSTAL_MARK
  lREVERSE_SOLIDUSoING_OPERATORnSQUAREgTIMESeRIANGLEa_DOWNnVERTICAL_BARmWHITE_BULLETgSTARjZcX
  bZERO_WITH_SLASHtULATION_FUNCTIONpMFLEX_ACCENTmS_TENTjTYSCAPEa_AT_DUSK
  qJK_COMPATIBILITY_IDEOGRAPH-2F800b1b2b3b4b5b6b7b8b9bAbBbCbDbEbFc10b1b2b3b4b5b6b7b8b9bAbBbCbDbEbF
  c20b1b2b3b4b5b6b7b8b9bAbBbCbDbEbFc30b1b2b3b4b5b6b7b8b9bAbBbCbDbEbFc40b1b2b3b4b5b6b7b8b9bAbBbCbDbE
  bFc50b1b2b3b4b5b6b7b8b9bAbBbCbDbEbFc60b1b2b3b4b5b6b7b8b9bAbBbCbDbEbFc70b1b2b3b4b5b6b7b8b9bAbBbCbD
  bEbFc80b1b2b3b4b5b6b7b8b9bAbBbCbDbEbFc90b1b2b3b4b5b6b7b8b9bAbBbCbDbEbFcA0b1b2b3b4b5b6b7b8b9bAbBbC
  bDbEbFcB0b1b2b3b4b5b6b7b8b9bAbBbCbDbEbFcC0b1b2b3b4b5b6b7b8b9bAbBbCbDbEbFcD0b1b2b3b4b5b6b7b8b9bAbB
  bCbDbEbFcE0b1b2b3b4b5b6b7b8b9bAbBbCbDbEbFcF0b1b2b3b4b5b6b7b8b9bAbBbCbDbEbFd900b1b2b3b4b5b6b7b8b9
  bAbBbCbDbEbFc10b1b2b3b4b5b6b7b8b9bAbBbCbDbEbFc20b1b2b3b4b5b6b7b8b9bAbBbCbDbEbFc30b1b2b3b4b5b6b7b8
  b9bAbBbCbDbEbFc40b1b2b3b4b5b6b7b8b9bAbBbCbDbEbFc50b1b2b3b4b5b6b7b8b9bAbBbCbDbEbFc60b1b2b3b4b5b6b7
  b8b9bAbBbCbDbEbFc70b1b2b3b4b5b6b7b8b9bAbBbCbDbEbFc80b1b2b3b4b5b6b7b8b9bAbBbCbDbEbFc90b1b2b3b4b5b6
  b7b8b9bAbBbCbDbEbFcA0b1b2b3b4b5b6b7b8b9bAbBbCbDbEbFcB0b1b2b3b4b5b6b7b8b9bAbBbCbDbEbFcC0b1b2b3b4b5
  b6b7b8b9bAbBbCbDbEbFcD0b1b2b3b4b5b6b7b8b9bAbBbCbDbEbFcE0b1b2b3b4b5b6b7b8b9bAbBbCbDbEbFcF0b1b2b3b4
  b5b6b7b8b9bAbBbCbDbEbFdA00b1b2b3b4b5b6b7b8b9bAbBbCbDbEbFc10b1b2b3b4b5b6b7b8b9bAbBbCbDfF900b1b2b3
  b4b5b6b7b8b9bAbBbCbDbEbFc10b1b2b3b4b5b6b7b8b9bAbBbCbDbEbFc20b1b2b3b4b5b6b7b8b9bAbBbCbDbEbFc30b1b2
  b3b4b5b6b7b8b9bAbBbCbDbEbFc40b1b2b3b4b5b6b7b8b9bAbBbCbDbEbFc50b1b2b3b4b5b6b7b8b9bAbBbCbDbEbFc60b1
  b2b3b4b5b6b7b8b9bAbBbCbDbEbFc70b1b2b3b4b5b6b7b8b9bAbBbCbDbEbFc80b1b2b3b4b5b6b7b8b9bAbBbCbDbEbFc90
  b1b2b3b4b5b6b7b8b9bAbBbCbDbEbFcA0b1b2b3b4b5b6b7b8b9bAbBbCbDbEbFcB0b1b2b3b4b5b6b7b8b9bAbBbCbDbEbF
  cC0b1b2b3b4b5b6b7b8b9bAbBbCbDbEbFcD0b1b2b3b4b5b6b7b8b9bAbBbCbDbEbFcE0b1b2b3b4b5b6b7b8b9bAbBbCbDbE
  bFcF0b1b2b3b4b5b6b7b8b9bAbBbCbDbEbFdA00b1b2b3b4b5b6b7b8b9bAbBbCbDbEbFc10b1b2b3b4b5b6b7b8b9bAbBbC
  bDbEbFc20b1b2b3b4b5b6b7b8b9bAbBbCbDbEbFc30b1b2b3b4b5b6b7b8b9bAbBbCbDbEbFc40b1b2b3b4b5b6b7b8b9bAbB
  bCbDbEbFc50b1b2b3b4b5b6b7b8b9bAbBbCbDbEbFc60b1b2b3b4b5b6b7b8b9bAbBbCbDc70b1b2b3b4b5b6b7b8b9bAbBbC
  bDbEbFc80b1b2b3b4b5b6b7b8b9bAbBbCbDbEbFc90b1b2b3b4b5b6b7b8b9bAbBbCbDbEbFcA0b1b2b3b4b5b6b7b8b9bAbB
  bCbDbEbFcB0b1b2b3b4b5b6b7b8b9bAbBbCbDbEbFcC0b1b2b3b4b5b6b7b8b9bAbBbCbDbEbFcD0b1b2b3b4b5b6b7b8b9
  zdRADICAL_BAMBOOfLUEdOLT_OF_CLOTHlNEcXcRUSH_ONEdTWOjC-SIMPLIFIED_BIRDeCARTeDRAGONgEATcVENeFISHdLY
  cROGeGATEdOLDeHORSEfLEAFdONGeSALTdEEcHELLeILKdPEECHgTANNED_LEATHERnOOTHeURTLEgWINDqHOKEeITY
  cVILIANhLIFFdOTHESgOWdDEATHeIVINATIONjOGdEAT_ONEdTHREEeWOgWEcYEdFIREdOOTeGHOSTeRASS_ONEdTHREEeWO
  jHANDdEADbRT_ONEdTWOiORNeJ-SIMPLIFIED_DRAGONgEVENeTOOTHeURTLEsADEeKNIFE_ONEdTWOjLAME_FOUReONE
  dTHREEeWOhONG_ONEdTWOiMEATcSHdOONcRTAReTHEReUND_ONEdTWOjNET_FOUReONEdTHREEeWOhOLDdPAW_ONEdTWO
  gERSONgRAINcMbPcEPEATgSEALcCOND_ONEdTHREEeWOjHEEPeILKcMPLIFIED_HALF_TREE_TRUNKoORNeWALKdHEAT
  fYELLOWqMALL_ONEdTWOiNAKEdOUT_ONEdTWOiPIRIT_ONEdTWOjUNdTABLEeHREADfIGEReURTLEgWALK_ONEdTWO
  gTER_ONEdTWOiEST_ONEdTWOqSTROKE_BXGdDbHaGbPaWGdXWGdZaGbTbWaGcZaPbZaGfNbPaDbGbZcQbSaGbPbTbWaGbZcZ
  aWGcZdTaNcWGcXGmLAMSHELL_MOBILE_PHONEtPPER_BOARDiING_HANDS_SIGNqSSICAL_BUILDINGqEAR_SCREEN_SYMBOL
  rINKING_BEER_MUGSjGLASSESnPBOARDhOCK_FACE_EIGHT_OCLOCKh-THIRTYlLEVEN_OCLOCKh-THIRTYnFIVE_OCLOCK
  h-THIRTYkOUR_OCLOCKh-THIRTYlNINE_OCLOCKh-THIRTYlONE_OCLOCKh-THIRTYkSEVEN_OCLOCKh-THIRTYlIX_OCLOCK
  h-THIRTYkTEN_OCLOCKh-THIRTYjHREE_OCLOCKh-THIRTYlWELVE_OCLOCKh-THIRTYlO_OCLOCKh-THIRTY
  qWISE_CLOSED_CIRCLE_ARROWsONTOUR_INTEGRALqDOWNWARDS_AND_UPWARDS_OPEN_CIRCLE_ARROWS
  zpGAPPED_CIRCLE_ARROWtINTEGRALiOPEN_CIRCLE_ARROWrRIGHT_AND_LEFT_SEMICIRCLE_ARROWS
  zcWARDS_AND_LEFTWARDS_OPEN_CIRCLE_ARROWSa_WITH_CIRCLED_ONE_OVERLAYzzsTOP_SEMICIRCLE_ARROW
  tRIANGLE-HEADED_OPEN_CIRCLE_ARROWzpSE_UPdD_BOOKeINTERSECTION_WITH_SERIFSyLOCK_WITH_KEY
  nMAILBOX_WITH_LOWERED_FLAGmRAISED_FLAGySUBSETa_OR_EQUAL_TOqPERSETa_OR_EQUAL_TOuUMBRELLA
  hNION_WITH_SERIFSa_AND_SMASH_PRODUCTzoUDa_WITH_LIGHTNINGjRAINeSNOWeTORNADOpWN_FACEjOATcCKROACH
  fTAIL_GLASSlONUTfFFINeINcLLISION_SYMBOLnONa_EQUALSgSIGNiMBINING_ACUTE_ACCENTa_BELOWmTONE_MARK
  k-GRAVE-ACUTElMACRONlLMOST_EQUAL_TO_ABOVEfBELOWuNNUITY_SYMBOLmTICLOCKWISE_ARROW_ABOVE
  lRING_OVERLAYzSTERISK_ABOVEfBELOWoBINDU_BELOWkREVEa_BELOWg-MACRONkIDGE_ABOVEfBELOWmCANDRABINDU
  jRONa_BELOWkEDILLAgIRCUMFLEX_ACCENTa_BELOWwLOCKWISE_ARROW_ABOVElRING_OVERLAYvOMMA_ABOVEa_RIGHT
  lBELOWjNJOINING_MACRONa_BELOWwYRILLIC_DASIA_PNEUMATAoHUNDRED_MILLIONS_SIGNnTHOUSANDS_SIGNwKAVYKA
  gLETTER_AbBEbIG_YUShCHEdDEbJERVfEFbLbMbNbRbSa-TEfFITAeGHEdHAaRD_SIGNjIaEbOTIFIED_AbBIG_YUShEkKA
  cLITTLE_YUSkMONOGRAPH_UKmOaMEGAfPEcSHAbCHAeOFT_SIGNjTEbSEdUaKRAINIAN_IEmVEcYATcERUdIbUcZEbHE
  kMILLIONS_SIGNnPALATALIZATIONmYEROKgOKRYTIEhSILI_PNEUMATAoTEN_MILLIONS_SIGNqHOUSAND_MILLIONS_SIGN
  vITLOa_LEFT_HALFjRIGHT_HALFqVZMEToDELETION_MARKlVANAGARI_DIGIT_EIGHTfFIVEdOUReNINEeONEdSEVENeIX
  dTHREEeWOdZEROkLETTER_AbKAcNAcPAcRAcUbVIjSIGN_AVAGRAHAxIAERESISa_BELOWg-RINGnOT_ABOVEa_LEFTeRIGHT
  lBELOWa_LEFTlTED_ACUTE_ACCENTmGRAVE_ACCENTrUBLE_ACUTE_ACCENTmBREVEa_BELOWlCIRCUMFLEX_ABOVE
  qGRAVE_ACCENTmINVERTED_BREVEa_BELOWuLOW_LINEiMACRONa_BELOWmOPEN_MARK_BELOWoVERLINE
  iPARENTHESES_ABOVEqLUS_SIGN_ABOVEfBELOWpRIGHTWARDS_ARROW_BELOWuNG_BELOWkTILDEa_LEFT_HALF
  jRIGHT_HALFqVERTICAL_LINE_ABOVEfBELOWkSTROKE_OVERLAYyD_CIRCUMFLEX_ACCENTxWN_TACK_BELOW
  lWARDS_ARROWpENCLOSING_CIRCLEa_BACKSLASHqDIAMONDhKEYCAPgSCREENfQUAREgUPWARD_POINTING_TRIANGLE
  ziQUALS_SIGN_BELOWrFERMATAgOUR_DOTS_ABOVEpGLAGOLITIC_LETTER_AZUdBIG_YUSgUKYeCHRIVIgDJERVIfOBRO
  fFITAdRITUfGLAGOLIhHERUeIaNITIAL_IZHElOTATED_BIG_YUShSMALL_YUSqZHEeKAKOeLJUDIJEhMYSLITEhNASHIfONU
  dPOKOJIgRITSIfSHAbTAdLOVOeMALL_YUSjTSIcVRIDOgUKUdVEDEeYATIdERIbUcSTUeObUcZEMLJAfHIVETE
  yRANTHA_DIGIT_FIVEdOUReONEdSIXdTHREEeWOdZEROkLETTER_AbKAcNAcPAcVIoPHEME_JOINERmVE_ACCENTa_BELOW
  mTONE_MARKk-ACUTE-GRAVElMACRONkEEK_DIALYTIKA_TONOSpKORONIShMUSICAL_PENTASEMEjTETRASEMEiRISEME
  pPERISPOMENIlYPOGEGRAMMENItHOMOTHETIC_ABOVEoOK_ABOVEiRNeINFINITYgVERTED_BREVEa_BELOWjIDGE_BELOW
  mDOUBLE_ARCH_ABOVEfBELOWzS_BELOWiKATAKANA-HIRAGANA_SEMI-VOICED_SOUND_MARKwVOICED_SOUND_MARK
  ziVYKA_ABOVE_LEFTeRIGHTsLATIN_LETTER_SMALL_CAPITAL_GbLbMbNbRwSMALL_LETTER_Aa_WITH_DIAERESISpE
  bLPHAeObVcBaETAeCa_CEDILLAjDbEaSHcTHdFaLATTENED_OPEN_A_ABOVEwGbHbIaNSULAR_DbGbRbTjKbL
  a_WITH_DOUBLE_MIDDLE_TILDEzONG_SgMbNbOa_WITH_DIAERESISjLIGHT_CENTRALIZATION_STROKEzjPbRa_BELOW
  fROTUNDAjSaCHWAfTaURNED_W_BELOWoUa_WITH_DIAERESISjLIGHT_CENTRALIZATION_STROKEzjVbWa_BELOWhXbZ
  tEFT_ANGLE_ABOVEfBELOWkRROW_ABOVEfBELOWgHEAD_ABOVEfBELOWpHALF_RING_ABOVEfBELOWnRPOON_ABOVE
  nPARENTHESIS_ABOVE_LEFTkBELOW_LEFTwRIGHT_ARROW_ABOVEfBELOWrTACK_BELOWlWARDS_ARROW_OVERLAY
  nHARPOON_WITH_BARB_DOWNWARDSzlIGATURE_LEFT_HALFa_BELOWpRIGHT_HALFa_BELOW
  wHT_CENTRALIZATION_STROKE_BELOWzhONG_DOUBLE_SOLIDUS_OVERLAYwSOLIDUS_OVERLAYoTROKE_OVERLAY
  oVERTICAL_LINE_OVERLAYyW_LINEiMACRONa_BELOWfLEFT_HALFa_BELOWpRIGHT_HALFa_BELOWr-ACUTEfBREVEfGRAVE
  lINUS_SIGN_BELOWqNOT_TILDE_ABOVEoUMBER_SIGN_ABOVErOGONEKa_ABOVElLD_PERMIC_LETTER_ANcDOIdNENOEfSII
  dZATAvPEN_MARK_BELOWoVERLINEiPALATALIZED_HOOK_BELOWuRENTHESES_ABOVEfBELOWfOVERLAYsLUS_SIGN_ABOVE
  fBELOWpRETROFLEX_HOOK_BELOWsVERSE_SOLIDUS_OVERLAYqD_COMMA_ABOVEtIGHT_ARROW_ABOVEfBELOWgHEAD_ABOVE
  eND_DOWN_ARROWHEAD_BELOWuUP_ARROWHEAD_BELOWwBELOWpHALF_RING_ABOVEfBELOWnRPOON_ABOVE
  nPARENTHESIS_ABOVE_RIGHTlBELOW_RIGHTxTACK_BELOWlWARDS_HARPOON_WITH_BARB_DOWNWARDSzlNG_ABOVEfBELOW
  fOVERLAYmSEAGULL_BELOWmHORT_SOLIDUS_OVERLAYoTROKE_OVERLAYoVERTICAL_LINE_OVERLAYzbNAKE_BELOW
  kQUARE_BELOWeRACKETS_ABOVEuTRONG_CENTRALIZATION_STROKE_BELOWziUSPENSION_MARKpTHREE_DOTS_ABOVE
  pILDEa_BELOWfLEFT_HALF_BELOWpOVERLAYhRIGHT_HALF_BELOWvRIPLE_ACUTE_ACCENTmDOTdUNDERDOT
  oURNED_COMMA_ABOVEsUP_TACK_ABOVEfBELOWlWARDS_ARROW_BELOWsR_ABOVEhS_ABOVEiVERTICAL_LINE_ABOVE
  fBELOWkTILDEoWIDE_BRIDGE_ABOVEmINVERTED_BRIDGE_BELOWyGGLY_LINE_BELOWrX_ABOVEfBELOWg-X_BELOW
  jZIGZAG_ABOVEfBELOWtETcMAbERCIAL_ATcMINUS_SIGNsPASSdLEMENTgOSITION_SYMBOLoRESSIONjNFETTI_BALL
  jOUNDED_FACElUSED_FACEkGRUENT_WITH_DOT_ABOVEvICAL_TAPERkJUNCTIONiSTRUCTION_SIGNeWORKER
  qTAINS_AS_MEMBERgNORMAL_SUBGROUPa_OR_EQUAL_TOzfWITH_LONG_HORIZONTAL_STROKEwOVERBAR
  hVERTICAL_BAR_AT_END_OF_HORIZONTAL_STROKEzzINUOUS_UNDERLINE_SYMBOLxOUR_INTEGRALmROL_KNOBS
  fSEQUENCE_INTRODUCERyVENIENCE_STOREpOKED_RICEhIEbNGfPTIC_CAPITAL_LETTER_AKHMIMIC_KHEImLFA
  eBOHAIRIC_KHEInCROSSED_SHEIkYPTOGRAMMIC_EIEdGANGIAgNIcSHEIsDALDAeEIcIALECT-P_ALEFeHORIeKAPAeNI
  mEIEdFEIcIcGAMMAdNGIAgHATEdORIeIAUDAfKAPAdHEIcIcSIdL-SHAPED_HAkAULAfMIcNIcOaLD_COPTIC_AINdDJAdESH
  dGANGIAgHAaTcEIcORIeOOUdSHEIcIMAmNUBIAN_NGIcYIdSHIMAfWAUnOUdPIbSIdROcSAMPIeHEIcIMAeIMAdOUdTAU
  cHETHEgUAcVIDAeZATAsOMBINING_NI_ABOVEiSPIRITUS_ASPERfLENISyEPACT_DIGIT_EIGHTfFIVEdOUReNINEeONE
  dSEVENeIXdTHREEeWOjNUMBER_EIGHT_HUNDREDiYgFIFTYdVE_HUNDREDlORTYdUR_HUNDREDmNINE_HUNDREDiTY
  gONE_HUNDREDlSEVEN_HUNDREDiTYgIX_HUNDREDiTYfTENcHIRTYeREE_HUNDREDmWENTYeO_HUNDREDsTHOUSANDS_MARK
  uFRACTION_ONE_HALFqULL_STOPjMORPHOLOGICAL_DIVIDERvOLD_NUBIAN_DIRECT_QUESTION_MARKuFULL_STOP
  jINDIRECT_QUESTION_MARKwVERSE_DIVIDERySMALL_LETTER_AKHMIMIC_KHEImLFAeBOHAIRIC_KHEInCROSSED_SHEI
  kYPTOGRAMMIC_EIEdGANGIAgNIcSHEIsDALDAeEIcIALECT-P_ALEFeHORIeKAPAeNImEIEdFEIcIcGAMMAdNGIAgHATEdORI
  eIAUDAfKAPAdHEIcIcSIdL-SHAPED_HAkAULAfMIcNIcOaLD_COPTIC_AINdDJAdESHdGANGIAgHAaTcEIcORIeOOUdSHEI
  cIMAmNUBIAN_NGIcYIdSHIMAfWAUnOUdPIbSIdROcSAMPIeHEIcIMAeIMAdOUdTAUcHETHEgUAcVIDAeZATAqYMBOL_KAI
  cHI_ROgMI_ROfPI_ROfSHIMA_SIMAjTAUROShTAU_ROrYLEFT_SYMBOLlRIGHT_SIGNmRALcNISH_VERSE_DIVIDER
  sRESPONDS_TOmUCH_AND_LAMPlNTERBOREeSINKgING_ROD_TENS_DIGIT_EIGHTfFIVEdOUReNINEeONEdSEVENeIXdTHREE
  eWOoUNIT_DIGIT_EIGHTfFIVEdOUReNINEeONEdSEVENeIXdTHREEeWOyPLE_WITH_HEARTpWa_FACEhRaABcEDIT_CARD
  iSCENT_MOONlICKETa_BAT_AND_BALLsOCODILEgISSANTgSS_MARKeOF_JERUSALEMjLORRAINE
  lPATTY_WITH_LEFT_CROSSBARnRIGHT_CROSSBARyOMMEEa_WITH_HALF-CIRCLE_BELOWzfED_FLAGS
  fNEGATIVE_SQUARED_LATIN_CAPITAL_LETTER_PzoSWORDSjING_LANESlWNdUTCHdZEIRO_SIGNlYING_CAT_FACEiFACE
  iSTAL_BALLlSIcUBE_ROOThCUMBERgNEIFORM_NUMERIC_SIGN_EIGHT_ASHdDISHeGESH2fSHAR2fUa_VARIANT_FORM
  oVARIANT_FORM_USSUa3xLAMITE_FIFTYeORTYfONE_THIRDjTWO_THIRDSsFIVE_ASHa_TENUiBAN2a_VARIANT_FORMqURU
  eDISHeGESH2bUfSHAR2bUeIXTHS_DISHlUa_VARIANT_FORMsOUR_ASHa_TENUiBAN2a_VARIANT_FORMqURUeDISHeGESH2
  bUfSHAR2bUfUa_VARIANT_FORMoVARIANT_FORM_LIMMUa_AbBc4yNIGIDAESHdMINhNE_ASHdDISHeGESH2fSHAR2fU
  a_VARIANT_FORMoVARIANT_FORM_ILIMMUa_Ac3b4zOLD_ASSYRIAN_ONE_QUARTERhSIXTHvNE_BAN2dURUeEIGHTH_ASH
  jSHE3fGESH2bUfHALF_GURiQUARTER_ASHdGURlSHARUfTHIRD_DISHeVARIANT_FORM_AySEVEN_ASHdDISHeGESH2fSHAR2
  fUa_VARIANT_FORMoVARIANT_FORM_IMIN_AbBc3xHAR2_TIMES_GAL_PLUS_DISHeMINxIX_ASHa_TENUiDISHeGESH2
  fSHAR2fUa_VARIANT_FORMoVARIANT_FORM_ASH9vTHREE_ASHa_TENUiBAN2dURUa_VARIANT_FORMrDISHeGESH2bU
  fSHAR2a_VARIANT_FORMoUa_VARIANT_FORMsVARIANT_FORM_ESH16c21xWO_ASHa_TENUiBAN2dURUeESHE3fGESH2bU
  fSHAR2bUfTHIRDS_DISHeVARIANT_FORM_AznPUNCTUATION_SIGN_DIAGONAL_COLONfQUADCOLONjTRICOLON
  rOLD_ASSYRIAN_WORD_DIVIDERzVERTICAL_COLONzgSIGN_Aa_TIMES_AbBADdGAN2_TENUjHAcIGIdLAGAR_GUNUkMUSH
  eSAGk2bBa_GUNUeTIMES_ASH2eDUN3_GUNUjGALbN2_TENUjHAcIGI_GUNUhMINeLAGABfNUNa_TENUiSHESHdU2
  eU_PLUS_U_PLUS_Uw2a_TIMES_AbBALAGfGAN2_TENUjME_PLUS_ENkSHA3eTAK4nDa_TIMES_ESH2mKa_TIMES_ERIN2
  fSHITA_PLUS_GISHxLa_TIMES_ALcDIM2eGISHeHAcKAD3dIcSHEdUSHkANcEPHeMARa_TIMES_KUGdSHEnNa_OVER_AN
  hPLUS_NAGA_OPPOSING_AN_PLUS_NAGAvSQUAREDrTHREE_TIMESmSHEePINdRADa_TIMES_KURmKABeSAL2dHa_KABA_TENU
  jOVER_ASH_OVER_ASHa_CROSSING_ASH_OVER_ASH_OVER_ASHzoTUG2_OVER_TUG2_TUG2_OVER_TUG2_PAPzrZIDA_TENU
  k2bGABgBAaDa_TIMES_DISH_TENUrG3cHAR2a_TIMES_AB2dNIcZAnLa_OVER_BALjAGdRaA2eIa_TIMES_AbGARdIGI_GUNU
  qUa_CROSSING_BUlOVER_BU_ABcTIMES_NA2jUNlLUGa_OVER_BULUGoRa2eDAa_TIMES_TAK4lG
  a_KISIM5_TIMES_A_PLUS_MASHkMAReBALAGeIcGAa_PLUS_MASHlIaR2dUDdHAcIRa_PLUS_LUkKAKdLAbUa_PLUS_MASH2
  lMdNEcPAP_PLUS_PAPmSIcTAK4eU2_PLUS_GIR2eMASHlSHqTIMES_KURk3cMbRaA3b4eIaBbMa_TIMES_IGIdSHEdU_U_Um2
  a_TIMES_UDlNa_KASKAL_U_GUNU_DISHuSHa_PLUS_SHUmUa_GUNUeOVER_DUhSHESHIGiBa_TIMES_ESH2eSHEk2cG
  a_TIMES_ANSHEeSHa_AT_LEFTlDINcUNdERIN2fGAbIaR2_GUNUhSHeHAbIcIGI_GUNUiKASKALfURbSHU2a_PLUS_KASKAL
  sLAK-020fMa_TIMES_KURmUH_PLUS_GISHnMASHdEScIcNIcPIcSHEcI_GUNUoUDdHbNa3a_GUNUa_GUNUl4cR2eE
  a_OVER_E_NUN_OVER_NUNtTIMES_PAPk2a_TIMES_A_PLUS_HA_PLUS_DArGARdKURdMIcPAPdSALcHEdUjDINdGIRdLbN
  a_CROSSING_ENlOPPOSING_ENlSQUAREDhTIMES_GAN2a_TENUjMEkRENcIN2a_XgSH2a_CROSSING_ESH2rZEN
  a_SHESHIG_TIMES_ASHdHIcIGI_GUNUiLAaLdMEaSdSUqTIMES_Aa_PLUS_LALa_TIMES_LALtNcBADdDUN3_GUNUa_GUNU
  oGUDdHAa_GUNUhIGI_GUNUiKASKALa_SQUAREDnU3dLAaL_TIMES_LALmIbUcSHEcUcU2bDnGAa_GUNUf2a_OVER_GA2
  iTIMES_A_PLUS_DA_PLUS_HAkHAcIGIjB2_TENU_PLUS_TABqNa_PLUS_KAK_PLUS_ArSHa2a_PLUS_GALnBADbHAR2
  eR_PLUS_RAkURa_PLUS_RAlDAbIaM_GUNUeTIMES_SHEmUBbG_TIMES_IGI_GUNUiKASKALqELa_PLUS_LAjN
  a_TIMES_GAN2_TENUrRENeGAaN2_TENUhRa_PLUS_DIcNEkIa4a_PLUS_AiR2_PLUS_SUmHA_PLUS_AbLU_PLUS_ESH2sL
  a_PLUS_LAkI_PLUS_LIjUB2eIGI_GUNUhSH_PLUS_HU_PLUS_ASHuKAKbSKALfIDa_PLUS_LALlU3_PLUS_AN
  jSHU2_PLUS_KASKALsLAaMa_TIMES_KURmUHdME_PLUS_ENjIbUSHeNEa_PLUS_E2cGIjUNa_OVER_NUNmPAcSALbRcHE
  a_PLUS_TURkIDbMdUMdTAK4eUaDa_PLUS_DUkZIZ2mBAa_CROSSING_GABAnROTATED_NINETY_DEGREESzD
  a_OVER_GAD_GAR_OVER_GARxLa_GAD_OVER_GAD_GAR_OVER_GARzbAMdMbNa2a_CROSSING_GAN2nOVER_GAN2jTENUhRa3
  cSHANfE22cSHTINa_TIMES_KURdUoIa_CROSSING_GIlTIMES_EbUi4a_CROSSING_GI4mOVER_GI4kDIMdGbR2a_GUNUg3
  a_TIMES_A_PLUS_IGIkGAN2_TENUjIGIdLU_PLUS_IGIlPAlSALcHa_CROSSING_GISHnTENUdIMES_BAD
  dGISH_CROSSING_GISHsTAK4oUa_CROSSING_GUm2a_GUNUeTIMES_IGI_GUNUiKAKa_TIMES_IGI_GUNUsNUN
  dSAL_PLUS_TUG2vDa_OVER_GUD_LUGALoPLUS_GISH_TIMES_TAK4uTIMES_A_PLUS_KURkKURlLbMa_TIMES_SHElRa7bUN
  bSHgHAa_GUNUeTENUa_GUNUkLcIa_TIMES_ASHa_OVER_HI_TIMES_ASHs2eBADdDISHeGADdKINdNUNdSHEdUjUaB2
  a_TIMES_ANcHALdKASKALgLISHeUDlL2cSHeIa_AcBbDIMa_OVER_IDIM_BURdSQUAREDvGaIa_DIBdGUNU
  eOVER_IGI_SHIR_OVER_SHIR_UD_OVER_UDzjRIfLa_TIMES_GAN2_TENUq2cMa_CROSSING_IMlOPPOSING_IMlSQUARED
  hTIMES_TAK4lINdNbRbSHdKAa_TIMES_AaDa_PLUS_KU3kNSHEeSH2b3eBADbLAGdRcIbUcERIN2eSH2eGAaLbN2_TENUhR
  a_PLUS_SHA3_PLUS_AtIaR2cSHa_CROSSING_GISHnPLUS_SARmUaDbR7eHI_TIMES_ASH2nIGIcMcKAaKcIaDdLIbUaMdME
  a_PLUS_DUcGIcTEjIa_PLUS_NUNUZnNEbUNdPAbIcRUcSAaRcHAbEbIDcUaLdIGcUHURfTARcUcUa_U_Ue2bD
  bMUM_TIMES_PAmRa2cSHdZIj2a_CROSSING_KA2oBbD2b3b4b5a_OVER_KAD5mKa_TIMES_IGI_GUNUqLa_CROSSING_KAL
  mTIMES_BADlM2b4cP_ELAMITEjSKALa_LAGAB_TIMES_U_OVER_LAGAB_TIMES_U
  zhOVER_KASKAL_LAGAB_TIMES_U_OVER_LAGAB_TIMES_UzzESH2eIa_TIMES_BADdUaDjDbNbSALcHbIM5a_OVER_KISIM5
  rUa_OVER_HI_TIMES_ASH2_KU_OVER_HI_TIMES_ASH2zq3b4a_VARIANT_FORMo7bLa_GUNUgNbRa_OPPOSING_KURoSHU2
  fWU318gLAaGABa_SQUAREDhTIMES_Aa_PLUS_DA_PLUS_HAkGARdLALjLbNbSH_ZIDA_TENUnBADcIcDARdENcGAaRcIbUD
  a_PLUS_GUDmHAaLcI_TIMES_NUNmIGI_GUNUhMa_PLUS_HAcLUkKIaNcU3bLa_PLUS_HI_PLUS_AsLAGABeISHdUaLdME
  a_PLUS_ENjUSHeNEcSHE_PLUS_SUMkITA_PLUS_GISH_PLUS_ERIN2kTENUsU2a_PLUS_SHU2nUMdTAGbK4
  dE_PLUS_A_PLUS_SU_PLUS_NAzUa_PLUS_AbU_PLUS_Uo2_PLUS_ASHkDbSHdZU_OVER_ZUsRa_GUNU
  a_OVER_LAGAR_GUNU_SHEyTIMES_SHEa_PLUS_SUMwHSHUeK-003c21b5c30c50b1c62c79_OVER_LAK-079_GUNUu80
  b1_OVER_LAK-081p92d130c42d210b9c20b5b8c38c65b6d343b7b8c83b4c90d441b9a_TIMES_GUcIGIdPAP_PLUS_LU3
  dPAP_PLUS_LU3vU2_PLUS_BAt50b7c70c83c90b2b3b5d550d608c17a_TIMES_ASHdBADdDUN3_GUNU_GUNUoKU3dLAcTAR
  cEcU2bDbRUDAo36c48a_TIMES_DUBdGAcIGIa_GUNUiNIcPAP_PLUS_PAP_PLUS_LU3vSHESH_PLUS_KInUDbRUDAp724c49
  fLa_TIMES_LALlMa_TIMES_KURa_PLUS_RUuIaLbMMU2eSHdUa_TIMES_BADk2a_CROSSING_LU2mGUNU_TIMES_ASH
  oOPPOSING_LU2mSHESHIGa_TIMES_BADqQUAREDhTENUdIMES_ALcBADdDISHeESH2a_PLUS_LALiTENUjGAN2_TENUjHAL
  cI_TIMES_BADmIMcKAD2b3a_PLUS_ASHmIcLA_PLUS_ASHjGABfME_PLUS_ENkNEbUcPAPa_PLUS_PAP_PLUS_LU3vSHU
  cI_PLUS_ASHjK2_PLUS_BUmTAK4dUG2m3bGALa_OPPOSING_LUGALnVER_LUGALkSHESHIGlHbLbMa_OVER_LUM
  a_GAR_OVER_GARzMAa_GUNUeTIMES_TAK4l2bHbRbSHa2eEaSaHdIa_PLUS_ZA7jNcUa_OVER_MUiGa_GUNUgNSUBeRGU2eSH
  a_CROSSING_MUSHnOVER_MUSHa_TIMES_A_PLUS_NAjGAcKAKtTIMES_AbKURdZAj3a_GUNUeTIMES_Aa_PLUS_DIjDIcZA
  oNAa2b4bGAa_INVERTEDiOPPOSING_NAGAnTIMES_SHU_TENUpRdMa_NUTILLUi2dEa_SHESHIGhTIMES_AbUDkIa_TIMES_E
  i2bMa_TIMES_GAN2_TENUhR_PLUS_GAN2_TENUzbNa9bDA2a_TIMES_ANbSHa_PLUS_ASHmBALdDIM_GUNUiGIaSHdUDbLdHI
  cKESH2fLAK-050hMASHdE_PLUS_GAN2_TENUrNEbUNdPAP_PLUS_PAPmSHEa_PLUS_A_ANdSHa_PLUS_ASHvUa_PLUS_U
  h2_PLUS_ASHkRUDAeSHoSAGeUa11a_OVER_NU11_BUR_OVER_BURwROTATED_NINETY_DEGREESwTENUhNa_CROSSING_NUN
  a_LAGAR_OVER_LAGARzeLAGAR_TIMES_GARdMASHeSALa_OVER_NUN_LAGAR_TIMES_SALzdUSHpOVER_NUNiTENUfUZ
  a_AB2_TIMES_ASHGABgBIcDUGdGUDdIGI_GUNUiKAD3eLAcNEcSILA3fU2mKISIM5_TIMES_BIa_UxPAaDbNbPcESH2
  a_ASTERISKnIa_CROSSING_PIlTIMES_AaBcBIbUcEbIaBcUa2jR2bIGa_OPPOSING_PIRIGoTIMES_KALdUDcZAoRAaBcIbU
  cSAaGa_GUNUa_TIMES_HAnNUTILLUhOVER_SAGiTIMES_AbDUaBdENcHAcIGI_GUNUiKAKcURdLUMdMIcNUNdSAL
  cHE_AT_LEFTjIDeTABbK4eU2bBbMbRbSHlLa_LAGAB_TIMES_ASH2sNGA2eRcHAa3a_TIMES_AbBADdGISHeNEcSHU2eTURdU
  a_PLUS_Aq6a_TENUgB6cR2dEa_HUcOVER_SHEa_GAD_OVER_GAD_GAR_OVER_GARzTAB_OVER_TAB_GAR_OVER_GAR
  zjPLUS_HUB2eNAM2eSARjG9cNbSHa2bLAMgIDa_TIMES_AbIMkMa_TIMES_AbBALcULUGfDINdGARdIGIa_GUNUiKUSHU2
  gLULdMUGdSALlNIGdRa_OVER_SHIR_BUR_OVER_BURwTENUgTAdUa_OVER_INVERTED_SHUs2a_PLUS_DUG_TIMES_NI
  mE2_TIMES_ANsBURfIa_GUNUeTIMES_TAK4lGa4a_OVER_SIG4_SHU2rK2cLA3eUa_OVER_SUiDa2cHURdMaASHeRa9eTA
  a_ASTERISKiGUNUeTIMES_HIcMIjBa_OVER_TAB_NI_OVER_NI_DISH_OVER_DISHzjSQUAREDjGa_TIMES_BIcGUDdSHEbU
  dTUG2eUDkK4a_PLUS_SAGlRcEa_GUNUgIa_TENUf2bLbRa_OVER_TIRa_GAD_OVER_GAD_GAR_OVER_GARzjTIMES_TAK4nU
  aG2cKbMa_TIMES_GAN2_TENUjTHREE_DISHsRa_OVER_TUR_ZA_OVER_ZAxUa_GUDdOVER_U_PA_OVER_PA_GAR_OVER_GAR
  xSUR_OVER_SURmU_REVERSED_OVER_U_REVERSEDziUa_Ue2bBbDa_GUNUeKUSHU2gSHESHIGa_TIMES_BADrTIMES_BADdMI
  cU_PLUS_U_PLUS_Ua_GUNUzcUGdMa_TIMES_LAGABfMEa_PLUS_DAkSHA3eUiBINdUMa_TIMES_KASKALgPAmNa_GUNUgR
  a_CROSSING_URlSHESHIGi2a_INVERTEDiTIMES_A_PLUS_HAcNAiLcHAcNUNdU2a_PLUS_ASHdBIjDk4bIa3cUa_TIMES_A
  aSHGABgBARdDARA3eUNdGAaLbN2_TENUhRcUcHAcIGIcMbSHdKIcLAK-668gU3bMdMINdPAcSHEcIG4eTUcU_PLUS_GUDjD
  bRUDAmDAa_TIMES_UmSHa_TIMES_AbKUaRdTAK4l2bUMXdXdTUKIeZ3a_TIMES_KASKALoUdZAa_SQUARED_TIMES_KUR
  rTENUf7bGbMXdE2cIa_OVER_ZIi3bBa_KABA_TENUlGbZ2dUa_OVER_ZU_PLUS_SARr5a_TIMES_AbTHREE_DISH_TENUxBUR
  dMqP_ON_BLACK_SQUAREpWITH_STRAWlCAKEeIDOeRLING_STONEjY_BRACKET_EXTENSIONrLOGICAL_ANDdORiOP
  hRENCY_EXCHANGEiSIGNjY_AND_RICElVED_STEM_PARAGRAPH_SIGN_ORNAMENTziSTARDdOMSfT_OF_MEATkYCLONE
  fLINDRICITYkPRIOT_SYLLABLE_AbEbIbJAbOcKAbEbIbObUcLAbEbIbObUcMAbEbIbObUcNAbEbIbObUcObPAbEbIbObUcRA
  bEbIbObUcSAbEbIbObUcTAbEbIbObUcUbWAbEbIbOcXAbEcZAbOpO-MINOAN_SIGN_CM001b2b4b5b6b7b8b9c10b1b2aBc3
  b5b7b9c21b3b4b5b6b7b8b9c30b3b4b5b6b7b8b9c40b1b4b6b7b9c50b1b2b3b4b5b6b8b9c60b1b2b3b4b6b7b8b9c70b1
  b2b3b4b5aBc6b8b9c80b1b2b3b4b5b6b7b8b9c90b1b2b4b5b6b7b8b9d100b1b2b3b4b5b7b8b9c10b2b4d301b2
  vRILLIC_CAPITAL_LETTER_Aa_WITH_BREVEfDIAERESISpBKHASIAN_CHEa_WITH_DESCENDERsDZEdHAlLEUT_KA
  iBARRED_Oa_WITH_DIAERESISvSHKIR_KAjEbIG_YUSfNOCULAR_OkLENDED_YUSkROAD_OMEGA
  kYELORUSSIAN-UKRAINIAN_IyCCHEdHEa_WITH_DESCENDERiIAERESISjVERTICAL_STROKExLOSED_LITTLE_YUS
  qROSSED_OjDCHEdEbJEaRVeOUBLE_MONOCULAR_OlOhWEcZEaLOdHEcWEcZEbHEfEa_WITH_DIAERESISpFbL
  a_WITH_DESCENDERjHOOKeMIDDLE_HOOKlTAILlMa_WITH_TAILlNa_WITH_DESCENDERjHOOKeLEFT_HOOKjMIDDLE_HOOK
  lTAILlRa_WITH_TICKlSa_WITH_DESCENDERrFITAeGHEa_WITH_DESCENDERjMIDDLE_HOOKlSTROKEa_AND_HOOKpUPTURN
  oJEdHAa_WITH_DESCENDERjHOOKeSTROKEmRD_SIGNiWEdIa_WITH_DIAERESISjGRAVEfMACRONmEa_WITH_BREVEfGRAVE
  mOaTAbIFIED_AbBIG_YUShCLOSED_LITTLE_YUSrEbLITTLE_YUSkYATlZHITSAa_WITH_DOUBLE_GRAVE_ACCENTzhJEcKA
  a_WITH_DESCENDERjHOOKeSTROKEgVERTICAL_STROKEwHAKASSIAN_CHEnJEcOMI_DEbJEcZJEeLJEdNJEdSJEdTJEdZJE
  gPPAeSIdLHAcITTLE_YUSjJEdMONOCULAR_OhGRAPH_UKmNEUTRAL_YERkJEdOa_WITH_DIAERESISpMEGAa_WITH_TITLOpT
  cPEa_WITH_DESCENDERjMIDDLE_HOOKsSIdQAcREVERSED_DZEdTSEdYUcZEkHAcOUND_OMEGAlSCHWAa_WITH_DIAERESIS
  tEMISOFT_SIGNmHAbCHAdHAa_WITH_DESCENDERrORT_Ia_WITH_TAILlUfWEdOFT_DEcELbMcSIGNiTRAIGHT_U
  a_WITH_STROKEwTCHEdEa_WITH_DESCENDERjMIDDLE_HOOKsSEbHEcSEcWEdWEdUa_WITH_DIAERESISiOUBLE_ACUTE
  mMACRONmKaRAINIAN_IEmVEcWEcYAaEbTcERUa_WITH_BACK_YERiDIAERESISsIbNbUcZEa_WITH_DESCENDERiIAERESIS
  pMLYAfHEa_WITH_BREVEfDESCENDERiIAERESISqWEkIGATURE_A_IEeEN_GHEgTE_TSExKAVYKAgLETTER_MULTIOCULAR_O
  nPALOCHKAiSMALL_CAPITAL_ELxPAYEROKhSMALL_LETTER_Aa_WITH_BREVEfDIAERESISpBKHASIAN_CHE
  a_WITH_DESCENDERsDZEdHAlLEUT_KAiBARRED_Oa_WITH_DIAERESISvSHKIR_KAjEbIG_YUSfNOCULAR_OkLENDED_YUS
  kROAD_OMEGAkYELORUSSIAN-UKRAINIAN_IyCCHEdHEa_WITH_DESCENDERiIAERESISjVERTICAL_STROKE
  xLOSED_LITTLE_YUSqROSSED_OjDCHEdEbJEaRVeOUBLE_MONOCULAR_OlOhWEcZEaLOdHEcWEcZEbHEfE
  a_WITH_DIAERESISpFbLa_WITH_DESCENDERjHOOKeMIDDLE_HOOKlTAILlMa_WITH_TAILlNa_WITH_DESCENDERjHOOK
  eLEFT_HOOKjMIDDLE_HOOKlTAILlRa_WITH_TICKlSa_WITH_DESCENDERrFITAeGHEa_WITH_DESCENDERjMIDDLE_HOOK
  lSTROKEa_AND_HOOKpUPTURNoJEdHAa_WITH_DESCENDERjHOOKeSTROKEmRD_SIGNiWEdIa_WITH_DIAERESISjGRAVE
  fMACRONmEa_WITH_BREVEfGRAVEmOaTAbIFIED_AbBIG_YUShCLOSED_LITTLE_YUSrEbLITTLE_YUSkYATlZHITSA
  a_WITH_DOUBLE_GRAVE_ACCENTzhJEcKAa_WITH_DESCENDERjHOOKeSTROKEgVERTICAL_STROKEwHAKASSIAN_CHEnJE
  cOMI_DEbJEcZJEeLJEdNJEdSJEdTJEdZJEgPPAeSIdLHAcITTLE_YUSjJEcONG-LEGGED_DEoMONOCULAR_OhGRAPH_UK
  mNARROW_OhEUTRAL_YERkJEdOa_WITH_DIAERESISpMEGAa_WITH_TITLOpTcPALOCHKAhEa_WITH_DESCENDER
  jMIDDLE_HOOKsSIdQAcREVERSED_DZEdTSEdYUcZEkHAcOUND_OMEGAgED_VEkSCHWAa_WITH_DIAERESIStEMISOFT_SIGN
  mHAbCHAdHAa_WITH_DESCENDERrORT_Ia_WITH_TAILlUfWEdOFT_DEcELbMcSIGNiTRAIGHT_Ua_WITH_STROKE
  wTALL_HARD_SIGNjTEcYAThCHEdEa_WITH_DESCENDERjMIDDLE_HOOKsHREE-LEGGED_TEoSEbHEcSEcWEdWEdU
  a_WITH_DIAERESISiOUBLE_ACUTEmMACRONmKaRAINIAN_IElNBLENDED_UKmVEcWEbIDE_EShYAaEbTcERU
  a_WITH_BACK_YERiDIAERESISsIbNbUcZEa_WITH_DESCENDERiIAERESISpMLYAfHEa_WITH_BREVEfDESCENDER
  iIAERESISqWEkIGATURE_A_IEeEN_GHEgTE_TSEvTHOUSANDS_SIGNxDAGGERa_KNIFEfWITH_LEFT_GUARDkRIGHT_GUARD
  vLET_SYMBOLkNCERdGOdRK_SHADEeUNGLASSESnSH_SYMBOLgWITH_LEFT_UPTURNrED_LOW_LINEiOVERLINE
  iTRIANGLE-HEADED_RIGHTWARDS_ARROWzmTA_LINK_ESCAPEpC1b2b3b4bScEAF_PERSONjCIDUOUS_TREE
  kMAL_EXPONENT_SYMBOLpSEPARATOR_KEY_SYMBOLzREASE_FONT_SIZE_SYMBOLxERcGREE_CELSIUShFAHRENHEITkSIGN
  jLaETEdIVERY_TRUCKlTA_EQUAL_TOmNTISTRY_SYMBOL_LIGHT_DOWN_AND_HORIZONTALa_WITH_CIRCLEgTRIANGLE
  iWAVEzeUP_AND_HORIZONTALa_WITH_CIRCLEgTRIANGLEiWAVEzcVERTICAL_AND_BOTTOM_LEFTeRIGHTmTOP_LEFT
  eRIGHTjWAVEiWITH_CIRCLEgTRIANGLEzsPARTMENT_STOREoRELICT_HOUSE_BUILDINGvSCENDING_NODE
  mERET_CAPITAL_LETTER_AYcBEEdCHEEeDEEdEFbLbMbNaGcRbSaHcTHcWcGAYdHbJEEdKAYdLONG_AaHcEbIbOaOhOIbW
  cPEEdSHORT_AaHcEbIbOaOiTEEcHEEeVEEdWUcYEEdZEEcHEEtSMALL_LETTER_AYcBEEdCHEEeDEEdEFbLbMbNaGcRbSaH
  cTHcWcGAYdHbJEEdKAYdLONG_AaHcEbIbOaOhOIbWcPEEdSHORT_AaHcEbIbOaOiTEEcHEEeVEEdWUcYEEdZEEcHEEuT
  a_ISLANDkKTOP_COMPUTERiWINDOWmVANAGARI_ABBREVIATION_SIGNqCUTE_ACCENTmCARETfDANDAeIGIT_EIGHTfFIVE
  dOUReNINEeONEdSEVENeIXdTHREEeWOdZEROjOUBLE_DANDAmGAP_FILLERjRAVE_ACCENTmHEADSTROKEkJAIN_OM
  hLETTER_AaAbIbUbWbYcBAbBAcHAdCAaNDRA_AbEbOhHAdDAbDAbDAbHAdHAdHAdEbFAcGAbGAcHAbHAdLOTTAL_STOPmHA
  bEAVY_YAiIaIcJAbHAcJAdKAbHAbHAeLAbLAbLAeMAaRWARI_DDAlNAbGAcNAbNAdYAdOaEbOEdPAbHAdQAcRAbHAcRAdSA
  bHAbORT_AbEbOgSAdTAbHAcTAbHAeUaEbUaEdVAbOCALIC_LaLcRaRkYAbYAdZAbHAkOMcSIGN_ANUSVARAhVAGRAHA
  iCANDRABINDUa_AVAGRAHAiTHREEeWOdVIRAMAsDOUBLE_CANDRABINDU_VIRAMAzHIGH_SPACING_DOT
  qINVERTED_CANDRABINDUuNUKTAfPUSHPIKAiSIDDHAMgPACING_CANDRABINDUtVIRAMAeSARGAlTRESS_SIGN_ANUDATTA
  iUDATTAsVOWEL_SIGN_AAbIbUbWbYcCANDRA_EbLONG_EgOiEbIaIcOaEbOEdPRISHTHAMATRA_EpSHORT_EbOhUaEbUaE
  dVOCALIC_LaLcRaRzeICE_CONTROL_FOUReONEdSTRINGgTHREEeWOrIAERESISgMETER_SIGNjOND_OPERATOR
  iSHAPE_WITH_A_DOT_INSIDExTARGETgWITH_BOTTOM_HALF_BLACKrLEFT_HALF_BLACKpRIGHT_HALF_BLACK
  qTOP_HALF_BLACKzE_FACE-1b2b3b4b5b6hSEL_LOCOMOTIVEpFFERENCE_BETWEENqGIT_EIGHTa_COMMAfFULL_STOP
  pFIVEa_COMMAfFULL_STOPnOURa_COMMAfFULL_STOPoNINEa_COMMAfFULL_STOPoONEa_COMMAfFULL_STOPnSEVEN
  a_COMMAfFULL_STOPoIXa_COMMAfFULL_STOPnTHREEa_COMMAfFULL_STOPoWOa_COMMAfFULL_STOPnZEROa_COMMA
  fFULL_STOPrRAM_FOR_EARTHaLY_HEAVENfUMANnGREATER_YANGdINlHEAVENLY_EARTHnUMAN_EARTHlLESSER_YANGdIN
  tMENSION_ORIGINoNGBAT_CIRCLED_SANS-SERIF_DIGIT_EIGHTfFIVEdOUReNINEeONEdSEVENeIXdTHREEeWOdZERO
  kNUMBER_TENzeNEGATIVE_CIRCLED_DIGIT_EIGHTfFIVEdOUReNINEeONEdSEVENeIXdTHREEeWOjNUMBER_TEN
  kSANS-SERIF_DIGIT_EIGHTfFIVEdOUReNINEeONEdSEVENeIXdTHREEeWOdZEROkNUMBER_TEN
  ztRECT_CURRENT_SYMBOL_FORM_TWOxHITiSABLED_CARiPPOINTED_BUT_RELIEVED_FACErFACE
  oCONTINUOUS_UNDERLINE_SYMBOLzcGUISED_FACEmTTO_MARKiVES_AKURU_DIGIT_EIGHTfFIVEdOUReNINEeONEdSEVEN
  eIXdTHREEeWOdZEROjOUBLE_DANDAmEND_OF_TEXT_MARKqGAP_FILLERkINITIAL_RAkLETTER_AaAcBAbHAdCAbHAdDAbDA
  bHAdHAdEbGAbHAdHAcIaIcJAcKAbHAdLAbLAdMAcNAbGAcNAcYAdObPAbHAdRAcSAbHAcSAdTAbHAcTAdUaUcVAcYAbYAdZA
  jMEDIAL_RAcYAjPREFIXED_NASAL_SIGNtSIGN_ANUSVARAiCANDRABINDUlHALANTAhNUKTAkVIRAMAfOWEL_SIGN_AAbIcE
  bIaIcObUaUwIDESdNG_MASKhSION_SIGNdLASHfTIMESlORCE_SYMBOLmYA_LAMPhZZY_FACEeSYMBOLlLE
  cNA_DOUBLE_HELIXpO_NOT_LITTER_SYMBOLsCUMENTa_WITH_PICTUREhTEXTa_AND_PICTUREzdDO
  cES_NOT_CONTAIN_AS_MEMBERgNORMAL_SUBGROUPa_OR_EQUALzkDIVIDEa_WITH_REVERSED_NEGATION_SLASHzkFORCE
  fPRECEDEa_OR_EQUALoOVEfSUCCEEDa_OR_EQUALxGa_FACEfRA_ABBREVIATION_SIGNrLETTER_AaAbIbUcBAbHAdCAbHA
  dDAbDAbHAdHAdEbGAbHAdHAcIaIcJAbHAdKAbHAdLAcMAcNAbGAcNAcYAdObPAbHAdRAbRAdSAbHAcSAdTAbHAcTAbHAeUaU
  cVAcYAjSIGN_ANUSVARAiNUKTAfVIRAMAeSARGAmVOWEL_SIGN_AAbIbUcEbIaIcObUaUcVOCALIC_RaRzLLAR_SIGNiPHIN
  fMINO_TILE_HORIZONTAL_BACKf-00-00b1b2b3b4b5b6e1-00b1b2b3b4b5b6e2-00b1b2b3b4b5b6e3-00b1b2b3b4b5b6
  e4-00b1b2b3b4b5b6e5-00b1b2b3b4b5b6e6-00b1b2b3b4b5b6qVERTICAL_BACKf-00-00b1b2b3b4b5b6e1-00b1b2b3b4
  b5b6e2-00b1b2b3b4b5b6e3-00b1b2b3b4b5b6e4-00b1b2b3b4b5b6e5-00b1b2b3b4b5b6e6-00b1b2b3b4b5b6yNG_SIGN
  hORcT_ABOVEfMINUSfOPERATORiPLUSfTED_CIRCLEfROSSfFENCEfLINE_FACEjOBELOSgRIGHT-POINTING_ANGLE
  uSOLIDUSgQUAREgTRANSPOSITION_MARKERzUBLE_ACUTE_ACCENTmCIRCLED_DIGIT_EIGHTfFIVEdOUReNINEeONEdSEVEN
  eIXdTHREEeWOjNUMBER_TENrOLON_EQUALkURLY_LOOPkDAGGERfOWN_TACKjEXCLAMATION_MARK
  qHIGH-REVERSED-9_QUOTATION_MARKzeYPHENgINTEGRALeRSECTIONmLEFT_ARC_GREATER-THAN_BRACKET
  zdOGICAL_ANDdORiW_LINEf-9_QUOTATION_MARKqREVERSED-9_QUOTATION_MARKzeNESTED_GREATER-THANmLESS-THAN
  a_WITH_UNDERBARzfOBLIQUE_HYPHENoPLUSdRECEDESgIMEa_QUOTATION_MARKuQUESTION_MARK
  nRIGHT_ARC_LESS-THAN_BRACKETzcSOLIDUS_OPERATORpQUARE_INTERSECTIONmUNIONlTACKED_COMMA
  lROKE_NOT_SIGNoUBSETeCCEEDSgPERSETgSPENSION_MARKpUNIONeP_TACKhVERTICAL_BARa_DOUBLE_LEFT_TURNSTILE
  oRIGHT_TURNSTILEwLEFT_TURNSTILEsLINEnWAVY_OVERLINEo-ENDED_MULTIMAPoLINE_EQUAL_TO_OR_GREATER-THAN
  mLESS-THANvSLANTED_EQUAL_TO_OR_GREATER-THANmLESS-THANvGREATER-THAN_OR_EQUAL_TO
  yLESS-THAN_OR_EQUAL_TOzjSTRUCK_CAPITAL_CbGAMMAfHbNbPaIcQbRbZjITALIC_CAPITAL_DjSMALL_DbEbIbJ
  oN-ARY_SUMMATIONpSMALL_GAMMAfPIqD_FEMALE_SIGNlMALE_SIGNjSYMBOLlGHNUTgVE_OF_PEACElWN_ARROWHEAD
  jFISH_TAILjRIGHT_DIAGONAL_ELLIPSISxTACKa_WITH_CIRCLE_BELOWx-POINTING_RED_TRIANGLE
  mSMALL_RED_TRIANGLEsTRIANGLE_WITH_LEFT_HALF_BLACKpRIGHT_HALF_BLACKzpWARD_FACING_HOOKa_WITH_DOT
  nNOTCHED_HOOKa_WITH_DOTzeS_ANCORAfRROWa_AND_RIGHT_ONE_EIGHTH_BLOCKzbFROM_BAR
  iLEFTWARDS_OF_UPWARDS_ARROWzbTO_BARgWITH_CORNER_LEFTWARDSqDOUBLE_STROKEnEQUILATERAL_ARROWHEAD
  vHORIZONTAL_STROKErLARGE_TRIANGLE_ARROWHEADyMEDIUM_TRIANGLE_ARROWHEADzNOTCHED_TAIL
  mSMALL_EQUILATERAL_ARROWHEADvTRIANGLE_ARROWHEADyTIP_LEFTWARDSjRIGHTWARDSzBLACK_ARROW
  fCIRCLED_WHITE_ARROWzCOMPRESSED_ARROWqDASHED_ARROWlOUBLE_ARROWmFINGER-POST_ARROW
  rHARPOON_WITH_BARB_LEFT_BESIDE_DOWNWARDS_HARPOON_WITH_BARB_RIGHTziUPWARDS_HARPOON_WITH_BARB_RIGHT
  znFROM_BARiTO_BARhWARDSjRIGHT_FROM_BARiTO_BARhWARDSzcEAVY_ARROWfCOMPRESSED_ARROWwPAIRED_ARROWS
  nQUADRUPLE_ARROWpROCKETgSANS-SERIF_ARROWpQUARED_ARROWnTRIANGLE_ARROWHEADk-HEADED_ARROW
  a_LEFTWARDS_OF_UPWARDS_TRIANGLE-HEADED_ARROWzrTO_BARgWITH_BOLD_SHAFTkDOUBLE_HORIZONTAL_STROKE
  yHEAVY_SHAFTlLONG_TIP_LEFTWARDSjRIGHTWARDStMEDIUM_SHAFTmNARROW_SHAFTmVERY_HEAVY_SHAFT
  zcDASHED_ARROWmPAIRED_ARROWSnZIGZAG_ARROWzPLE_ARROWlWO_HEADED_ARROW
  n-HEADED_ARROW_WITH_TRIANGLE_ARROWHEADSzqWHITE_ARROWa_WITHIN_TRIANGLE_ARROWHEADzmZIGZAG_ARROW
  vRACHMA_SIGNjFTING_POINT_RIGHTWARDS_ARROWzdGONa_FACEjESSdIVE_SLOW_SIGNnOMEDARY_CAMELmOLING_FACE
  kP_OF_BLOODjLETfUM_WITH_DRUMSTICKStUCKcMPLINGgPLOYAN_AFFIX_ATTACHED_E_HOOKgI_HOOK
  gLEFT-TO-RIGHT_SECANTuSECANTgTAILcNGENTa_HOOKvHIGH_ACUTEfCIRCLEgDOTdGRAVEfLINEdONG_GRAVE
  kTIGHT_ACUTElVERTICALa_SECANTpWAVEjLEFT_HORIZONTAL_SECANTvOW_ACUTEeRROWfCIRCLEgDOTdGRAVEfLINE
  dONG_GRAVEkTIGHT_ACUTElVERTICALa_SECANTpWAVEiMID_HORIZONTAL_SECANTrVERTICAL_SECANT
  tRIGHT_HORIZONTAL_SECANTzeDOUBLE_MARKlLETTER_AaOUdBbDa_ScHcEaEbUcFa_NdGa_R_SfHaLcIaEcJa_Ma_SdNa_S
  dSa_WITH_DOTkWITH_DOTaS_INSIDE_AND_ABOVEzdKa_MbR_SeKcLaHbONG_IbUgMa_Na_SdSbWITH_DOTkNa_Ma_SdS
  bWITH_DOTjASAL_AbIbObUhOaAbOHcUbWcPa_NcERNIN_AMbNjRa_ScHbOMANIAN_IbUkSa_Ja_SdKa_RdMbNbPa_RdSbTa_R
  dWITH_DOTa_BELOWpHORT_IgLOAN_ANcDHcEEbHbNcJbONbWcUhTa_R_SdScHcUa_NcHbIcVaOCALIC_MjWa_RcAbEIcHbIbO
  aWdXaWcYEjPUNCTUATION_CHINOOK_FULL_STOPzeSIGN_O_WITH_CROSSrTHICK_LETTER_SELECTORzeVD
  dE-MAIL_SYMBOLmAGLEdRa_OF_MAIZEfRICEhWITH_HEARING_AIDrTHa_GLOBE_AMERICAShSIA-AUSTRALIA
  oEUROPE-AFRICAsROUNDkST_SYRIAC_CROSSqDITORIAL_CORONISqGGbYPTIAN_HIEROGLYPH_A001b2b3b4b5aAc6aAbBc7
  b8b9c10b1b2b3b4aAc5b6b7aAc8b9c20b1b2b3b4b5b6b7b8b9c30b1b2aAc3b4b5b6b7b8b9c40aAc1b2aAc3aAc4b5aAc6
  b7b8b9c50b1b2b3b4b5b6b7b8b9c60b1b2b3b4b5b6b7b8b9c70dA001b2b3b4b5b6b7aAbBc8b9c10b1b2b3b4b5b6b7b8b9
  c20b1b2b3b4b5b6b7b8b9c30b1b2fB001b2b3b4b5aAc6b7b8b9dEGIN_SEGMENTnC001b2aAbBbCc3b4b5b6b7b8b9c10aA
  c1b2b3b4b5b6b7b8b9c20b1b2b3b4eD001b2b3b4b5b6b7b8aAc9c10b1b2b3b4b5b6b7b8b9c20b1b2b3b4b5b6b7aAc8b9
  c30b1aAc2b3b4aAc5b6b7b8b9c40b1b2b3b4b5b6aAc7b8aAc9c50aAbBbCbDbEbFbGbHbIc1b2aAc3b4aAc5b6b7b8b9c60
  b1b2b3b4b5b6b7aAbBbCbDbEbFbGbHfE001b2b3b4b5b6b7b8aAc9aAd10b1b2b3b4b5b6aAc7aAc8b9c20aAc1b2b3b4b5b6
  b7b8aAc9c30b1b2b3b4aAc6b7b8dND_SEGMENTlF001aAc2b3b4b5b6b7b8b9c10b1b2b3aAc4b5b6b7b8b9c20b1aAc2b3b4
  b5b6b7b8b9c30b1aAc2b3b4b5b6b7aAc8aAc9c40b1b2b3b4b5aAc6aAc7aAc8b9c50b1aAbBbCc2b3eG001b2b3b4b5b6aA
  c7aAbBc8b9c10b1aAc2b3b4b5b6b7b8b9c20aAc1b2b3b4b5b6aAc7b8b9c30b1b2b3b4b5b6aAc7aAc8b9c40b1b2b3aAc4
  b5aAc6b7b8b9c50b1b2b3b4eH001b2b3b4b5b6aAc7b8dORIZONTAL_JOINERrI001b2b3b4b5aAc6b7b8b9aAd10aAc1aAc2
  b3b4b5dNSERT_AT_BOTTOM_ENDdSTARTmTOP_ENDdSTARTtK001b2b3b4b5b6b7b8eL001b2aAc3b4b5b6aAc7b8eM001aAbB
  c2b3aAc4b5b6b7b8b9c10aAc1b2aAbBbCbDbEbFbGbHc3b4b5aAc6aAc7aAc8b9c20b1b2aAc3b4aAc5b6b7b8aAc9c30b1aA
  c2b3aAbBc4b5b6b7b8b9c40aAc1b2b3b4eN001b2b3b4b5b6b7b8b9c10b1b2b3b4b5b6b7b8aAbBc9c20b1b2b3b4b5aAc6
  b7b8b9c30b1b2b3aAc4aAc5aAc6b7aAc8b9c40b1b2dL001b2b3b4b5aAc6b7b8b9c10b1b2b3b4b5b6b7aAc8b9c20eU001
  b2b3b4b5b6b7b8b9c10aAc1aAc2b3b4b5b6b7b8aAc9c20b1b2aAgO001aAc2b3b4b5aAc6aAbBbCbDbEbFc7b8b9c10aAbB
  bCc1b2b3b4b5b6b7b8b9aAd20aAc1b2b3b4aAc5aAc6b7b8b9aAd30aAc1b2b3aAc4b5b6aAbBbCbDc7b8b9c40b1b2b3b4b5
  b6b7b8b9c50aAbBc1dVERLAY_MIDDLEoP001aAc2b3aAc4b5b6b7b8b9c10b1eQ001b2b3b4b5b6b7eR001b2aAc3aAbBc4b5
  b6b7b8b9c10aAc1b2b3b4b5b6aAc7b8b9c20b1b2b3b4b5b6b7b8b9eS001b2aAc3b4b5b6aAc7b8b9c10b1b2b3b4aAbBc5
  b6b7aAc8b9c20b1b2b3b4b5b6aAbBc7b8b9c30b1b2b3b4b5aAc6b7b8b9c40b1b2b3b4b5b6eT001b2b3aAc4b5b6b7aAc8
  aAc9aAd10b1aAc2b3b4b5b6aAc7b8b9c20b1b2b3b4b5b6b7b8b9c30b1b2aAc3aAc4b5b6eU001b2b3b4b5b6aAbBc7b8b9
  c10b1b2b3b4b5b6b7b8b9c20b1b2b3aAc4b5b6b7b8b9aAd30b1b2aAc3b4b5b6b7b8b9c40b1b2eV001aAbBbCbDbEbFbGbH
  bIc2aAc3b4b5b6b7aAbBc8b9c10b1aAbBbCc2aAbBc3b4b5b6b7b8b9c20aAbBbCbDbEbFbGbHbIbJbKbLc1b2b3aAc4b5b6
  b7b8aAc9aAd30aAc1aAc2b3aAc4b5b6b7aAc8b9c40aAeERTICAL_JOINERpW001b2b3aAc4b5b6b7b8b9aAd10aAc1b2b3b4
  aAc5b6b7aAc8aAc9c20b1b2b3b4aAc5eX001b2b3b4aAbBc5b6aAc7b8aAfY001aAc2b3b4b5b6b7b8eZ001b2aAbBbCbDc3
  aAbBc4aAc5aAc6b7b8b9c10b1b2b3b4b5aAbBbCbDbEbFbGbHbIc6aAbBbCbDbEbFbGbH
  yIGHT_PETALLED_OUTLINED_BLACK_FLORETTEzgOINTED_BLACK_STARkPINWHEEL_STARnRECTILINEAR_BLACK_STAR
  zfSPOKED_ASTERISKpTEARDROP-SPOKED_PROPELLER_ASTERISKzkH_NOTEkJECT_SYMBOLlLBASAN_LETTER_AbBEcCEbHE
  dDEbHEdEaIcFEcGEbHAMMAeEcJEdHEcIbJEcKEbHEdLEbLEdMEcNAbDEcEbJEdObPEcQEcREbREdSEbHEdTEbHEdUbVEcXEcY
  bZEbHEqECTRIC_ARROWfLIGHT_BULBkPLUGeTORCHgAL_INTERSECTIONuMENT_OFa_OPENING_DOWNWARDSjUPWARDS
  pWITH_DOT_ABOVEjLONG_HORIZONTAL_STROKEwOVERBARhTWO_HORIZONTAL_STROKESwUNDERBAR
  iVERTICAL_BAR_AT_END_OF_HORIZONTAL_STROKEzzdPHANTfVATORgFbYMAIC_LETTER_ALEPHeYINeBETHeDALETH
  gGIMELfHEaTHeKAPHeLAMEDHgMEMdNUNdPEcQOPHeRESHeSADHEdMEKHfHINeTAWcETHeWAWdYODHeZAYIN
  lIGATURE_ZAYIN-YODHzbM_DASHeQUADeSPACEgOJI_COMPONENT_BALDeCURLY_HAIRkRED_HAIRiWHITE_HAIR
  uMODIFIER_FITZPATRICK_TYPE-1-2d3b4b5b6zgPHASIS_SYMBOLmTY_DOCUMENTiNESTdOTEa_PADbGEjPAGEaSfSET
  a_WITH_LEFT_ARROW_ABOVEqOVERBARhRIGHT_ARROW_ABOVErSMALL_CIRCLE_ABOVEzhN_DASHeQUADeSPACE
  gD_OF_GUARDED_AREAmLINEeMEDIUMgPROOFcTECTED_AREAoSELECTED_AREAnTEXTdRANSMISSIONa_BLOCK
  vWITH_LEFTWARDS_ARROW_ABOVEzdQaUIRYfTER_SYMBOLkVELOPEa_WITH_DOWNWARDS_ARROW_ABOVEvLIGHTNINGwOLbM
  bTcPAcQUAL_AND_PARALLEL_TOpTO_BY_DEFINITIONnOR_GREATER-THANmLESS-THANjPRECEDESiSUCCEEDSpS_COLON
  fSIGNa_ABOVE_LEFTWARDS_ARROWpPLUS_SIGNjRIGHTWARDS_ARROWqTILDE_OPERATORtND_SLANTED_PARALLEL
  a_WITH_TILDE_ABOVEzmWITH_BUMPY_ABOVElDOT_BELOWjINFINITY_BELOWoTWO_DOTS_ABOVE_AND_TWO_DOTS_BELOW
  zsWITH_ASTERISKrIANGULAR_TOkVALENT_TOcWITH_FOUR_DOTS_ABOVEzfRASE_TO_THE_LEFTeRIGHTqIS_FORM_ONE
  dTWOlROR-BARRED_BLACK_CIRCLEgDIAMONDhSQUAREmWHITE_CIRCLEgDIAMONDhSQUAREySAbCaAPEeTIMATED_SYMBOLiS
  iTBbHIOPIC_COLONdMBINING_GEMINATION_AND_VOWEL_LENGTH_MARKvMARKpVOWEL_LENGTH_MARKyMAfDIGIT_EIGHT
  fFIVEdOUReNINEeONEdSEVENeIXdTHREEeWOjFULL_STOPjNUMBER_EIGHTYgFIFTYeORTYfHUNDREDhNINETYgSEVENTY
  gIXTYfTENa_THOUSANDlHIRTYfWENTYnPARAGRAPH_SEPARATORsREFACE_COLONnQUESTION_MARKnSECTION_MARK
  kMICOLONiYLLABLE_BAaAcBAaAcEaEcIbObUcEaEcIbOaAcUbWAbEaEcIdCAaAcCAaAcEaEcHAaAcEaEcHAaAcEaEcIbObUcI
  bObUcIbObUcEaEcHAaAcEaEcIbOaAcUbWAdIbOaAcUbWAdDAaAcDAaAcEaEcHAAcEaEcIbObUcIbOaAcUbWAdEaEcIbOaAcU
  bWAcZAAcEaEcIbObUdFAaAcEaEcIbObUbWAbEaEcIcYAdGAaAcEaEcGAaAcEaEcIbObUbWAaAcEaEcIdIbLOTTAL_AaAcEaE
  cIbOaAcUbWAjOaAcUaRAGE_BWEEcIdFWEEcIdGWEaEcIdHHWAeKWEaEcIdMWEEcIdPWEEcIdQWEaEcIjWAaAcEaEcIcYAaAcE
  aEcIbObUdHAaAcEaEcHAaAcEaEcIbObUbWAbEaEcIcYAaAcEaEcIbObUdIbOaAcUcJAaAcEaEcIbOaAcUbWAdKAaAcEaEcIbO
  aAcUbWAaAcEaEcIcXAaAcEaEcIbObUbWAaAcEaEcIdYAaAcEaEcIbObUdLAaAcEaEcIbOaAcUbWAdMAaAcEaEcIbOaAcUbWA
  bEaEcIcYAdNAaAcEaEcIbOaAcUbWAcYAaAcEaEcIbOaAcUbWAePAaAcEaEcHAaAbRYNGEAL_AaAcEaEcIbObUkEaEcIbOaAcU
  bWAdIbOaAcUbWAbEaEcIdQAaAcEaEcHAaAcEaEcIbObUbWAaAcEaEcIdIbOaAcUbWAaAcEaEcIcYAaAcEaEcIbObUdRAaAcE
  aEcIbOaAcUbWAcYAdSAaAcEaBATBEIT_BWAdFWAdMWAdPWAlEcHAaAcEaEcIbOaAcUbWAdIbOaAcSAaAcEaEcIbObUcUbWA
  cZAaAcEaEcIbObUbWAeTAaAcEaEcHAaAcEaEcIbOaAcUbWAdIbOaAcSAaAcEaEcIbObUbWAdTHAAcEaEcIbObUdUbWAcZAaA
  cEaEcIbOaAcUdVAaAcEaEcIbObUbWAdWAaAcEaEcIbOaAcUcXAaAcEaEcIbOaAcUbWAaAcEaEcIcYAaAcEaEcIbObUdYAaAcE
  aEcIbOaAcUcZAaAcEaEcHAaAcEaEcIbObUbWAdIbOaAcUbWAcZAaAcEaEcIbObUmTONAL_MARK_CHIRETgDERETa-HIDET
  kIFATfHIDETfKENATeURTeRIKRIKgSHORT_RIKRIKmYIZETqWORDSPACEqXcULER_CONSTANTmRO_SIGNf-CURRENCY_SIGN
  oPEAN_CASTLEgPOST_OFFICEtVERGREEN_TREEnXCESSdLAMATION_MARKeQUESTION_MARKxPRESSIONLESS_FACE
  rTENDED_ARABIC-INDIC_DIGIT_EIGHTfFIVEdOUReNINEeONEdSEVENeIXdTHREEeWOdZEROzeRATERRESTRIAL_ALIEN
  sEMELY_HEAVY_FIVE_SPOKED_ASTERISKuGREEK_CROSSlSALTIREgIX_SPOKED_ASTERISKtWHITE_CIRCLEgSQUAREzcYE
  aGLASSEShSeFACE_HOLDING_BACK_TEARSsMASSAGEhPALMeSAVOURING_DELICIOUS_FOODxCREAMING_IN_FEAR
  rTHROWING_A_KISSpWITH_COLD_SWEATiWBOY_HATkDIAGONAL_MOUTHoFINGER_COVERING_CLOSED_LIPS
  zcHEAD-BANDAGEmLOOK_OF_TRIUMPHpMEDICAL_MASKlONOCLEhNO_GOOD_GESTUREpOK_GESTUREjNE_EYEBROW_RAISED
  rPEN_EYES_AND_HAND_OVER_MOUTHyMOUTHa_AND_COLD_SWEAToVOMITINGtPARTY_HORN_AND_PARTY_HATxEEKING_EYE
  kLEADING_EYESnROLLING_EYESmSTUCK-OUT_TONGUEa_AND_TIGHTLY-CLOSED_EYEStWINKING_EYEzhTEARS_OF_JOY
  lHERMOMETERlUNEVEN_EYES_AND_WAVY_MOUTHzcOUT_MOUTHpSIMILE_SIGNlTORYfIRYdLAFELeLEN_LEAF
  hING_DIAGONAL_CROSSING_NORTH_EAST_ARROWqRISING_DIAGONALyIN_WHITE_CIRCLE_IN_BLACK_SQUAREzvMILY
  eRSI_SYMBOLkTHER_CHRISTMASoX_ICONeMACHINEkEARFUL_FACEjTHERfMALE_SIGNiININE_ORDINAL_INDICATORyNCER
  eRRIS_WHEELiYeFbIELD_HOCKEY_STICK_AND_BALLzGURE_DASHeSPACEkLE_CABINEThFOLDERgSEPARATORlM_FRAMES
  gPROJECTORmNITE_PART_INTEGRALsREa_ENGINEfXTINGUISHERnCRACKERhWORK_SPARKLERjSgST_PLACE_MEDAL
  lQUARTER_MOONa_SYMBOLgWITH_FACEwSTRONG_ISOLATEsSHa_CAKE_WITH_SWIRL_DESIGNxEYEdING_POLE_AND_FISH
  sTED_HAND_SIGNoVE_DOT_MARKePUNCTUATIONtLAG_IN_HOLEjMINGOfT_SHOEfBREADfNESSgEUR-DE-LISjXED_BICEPS
  lOPPY_DISKiRAL_HEARTjWERa_PLAYING_CARDSmUNCTUATION_MARKvUSHED_FACEkYaING_DISCeENVELOPEiSAUCERmOG
  aGYdLDEReNDUEeOTaPRINTSiR_ALLeCESdK_AND_KNIFEa_WITH_PLATEvED_PARAGRAPHOSoINGeM_FEEDgTUNE_COOKIE
  mUNTAINfR_BALLOON-SPOKED_ASTERISKxCLUB-SPOKED_ASTERISKtORNER_ARROWS_CIRCLING_ANTICLOCKWISE
  zlDOT_MARKePUNCTUATIONpLEAF_CLOVERlPOINTED_BLACK_STARsTEARDROP-SPOKED_ASTERISKz-PER-EM_SPACE
  nTH_ROOTjX_FACEhRACTION_NUMERATOR_ONEnSLASHlME_WITH_AN_XePICTUREhTILESoEEZING_FACEkNCH_FRANC_SIGN
  iIESkIED_SHRIMPkOG_FACEgNT-FACING_BABY_CHICKrTILTED_SHADOWED_WHITE_RIGHTWARDS_ARROWzqWN
  aING_FACE_WITH_OPEN_MOUTHzdSaIcUEL_PUMPhLL_BLOCKfMOON_SYMBOLgWITH_FACEoOUTER_JOINkSTOP
  fWIDTH_AMPERSANDiPOSTROPHEjSTERISKiBROKEN_BARkCENT_SIGNiIRCUMFLEX_ACCENTqOLONdMMAbERCIAL_AT
  nDIGIT_EIGHTfFIVEdOUReNINEeONEdSEVENeIXdTHREEeWOdZEROjOLLAR_SIGNlEQUALS_SIGNkXCLAMATION_MARK
  qFULL_STOPjGRAVE_ACCENTkEATER-THAN_SIGNrHYPHEN-MINUSmLATIN_CAPITAL_LETTER_AbBbCbDbEbFbGbHbIbJbKbL
  bMbNbObPbQbRbSbTbUbVbWbXbYbZqSMALL_LETTER_AbBbCbDbEbFbGbHbIbJbKbLbMbNbObPbQbRbSbTbUbVbWbXbYbZ
  tEFT_CURLY_BRACKETnPARENTHESISlSQUARE_BRACKEToWHITE_PARENTHESISuSS-THAN_SIGNnOW_LINEiMACRON
  gNOT_SIGNhUMBER_SIGNlPERCENT_SIGNlLUS_SIGNiOUND_SIGNkQUESTION_MARKlOTATION_MARKoREVERSE_SOLIDUS
  oIGHT_CURLY_BRACKETnPARENTHESISlSQUARE_BRACKEToWHITE_PARENTHESISxSEMICOLONiOLIDUShTILDE
  fVERTICAL_LINEnWON_SIGNiYEN_SIGNqNCTION_APPLICATIONrERAL_URNjSEdVS1b2b3b4eGAME_DIEgRLICfEAR
  a_WITH_HANDLESiOUT_HUBoM_STONEgINIeNIEdOMETRIC_PROPORTIONlALLY_EQUAL_TOfIVALENT_TO
  yRGIAN_CAPITAL_LETTER_AENcNcBANdCANcHARcINdILdDONdENcGANcHANeHAEbRcEbIEcOEdINcJHANdILdKANcHAReLAS
  dMANdNARdONcPARcHAReQARdRAEdSANcHINeTANbRdUNcVINdWEcXANdYNcZENcHARtLETTER_AENcINcNcBANdCANcHARcIN
  dILdDONdELIFIeNcFIcGANcHANeHAEbRaD_SIGNiEbIEcOEdINcJHANdILdKANcHAReLABIAL_SIGNjSdMANdNARdONcPAR
  cHAReQARdRAEdSANcHINeTANbRcURNED_GANkUNcVINdWEcXANdYNcZENcHARlMTAVRULI_CAPITAL_LETTER_AENcINcN
  cBANdCANcHARcINdILdDONdELIFIeNcFIcGANcHANeHAEbRaD_SIGNiEbIEcOEdINcJHANdILdKANcHAReLABIAL_SIGNjS
  dMANdNARdONcPARcHAReQARdRAEdSANcHINeTANbRcURNED_GANkUNcVINdWEcXANdYNcZENcHARzdPARAGRAPH_SEPARATOR
  tSMALL_LETTER_AENcNcBANdCANcHARcINdILdDONdENcGANcHANeHAEbRcEbIEcOEdINcJHANdILdKANcHAReLASdMANdNAR
  dONcPARcHAReQARdRAEdSANcHINeTANbRdUNcVINdWEcXANdYNcZENcHARyRMAN_PENNY_SIGNpTA_MARKiHOST
  eIMEL_SYMBOLkRAFFE_FACEjLaS_SYMBOLlLAGOLITIC_CAPITAL_LETTER_AZUdBIG_YUSgUKYeCAUDATE_CHRIVInHRIVI
  gDJERVIfOBROeZELOfFITAdRITUfGLAGOLIhHERUeIaNITIAL_IZHElOTATED_BIG_YUShSMALL_YUSqZHEbITSAhKAKO
  eLATINATE_MYSLITEpJUDIJEhMYSLITEhNASHIfONUcTUdPEbOKOJIgRITSIfSHAbTAaPICgLOVOeMALL_YUSa_WITH_TAIL
  sPIDERY_HAkTROKUTASTI_AlSIcVRIDOgUKUdVEDEeYATIdERIbUcSTUeObUcZEMLJAfHIVETEwSMALL_LETTER_AZU
  dBIG_YUSgUKYeCAUDATE_CHRIVInHRIVIgDJERVIfOBROeZELOfFITAdRITUfGLAGOLIhHERUeIaNITIAL_IZHE
  lOTATED_BIG_YUShSMALL_YUSqZHEbITSAhKAKOeLATINATE_MYSLITEpJUDIJEhMYSLITEhNASHIfONUcTUdPEbOKOJI
  gRITSIfSHAbTAaPICgLOVOeMALL_YUSa_WITH_TAILsPIDERY_HAkTROKUTASTI_AlSIcVRIDOgUKUdVEDEeYATIdERIbU
  cSTUeObUcZEMLJAfHIVETEzdSS_OF_MILKlEICH_STARKkOBE_WITH_MERIDIANSrVESdWING_STARlOAL_NETfTcGGLES
  fLFEReRILLAfTHIC_LETTER_AHSAdIHVUSgBAIRKANhDAGSeEISdFAIHUfGIBAeHAGLdWAIRfIGGWSeUJAeJERdKUSMA
  fLAGUSfMANNAfNAUTHSfINE_HUNDREDiTYgOTHALfPAIRTHRAiQAIRTHRAiRAIDAfSAUILfTEIWSeHIUTHgURUSeWINJA
  sRADUATION_CAPlNTHA_AU_LENGTH_MARKoLETTER_AaAbIbUcBAbHAdCAbHAdDAbDAbHAdHAdEEcGAbHAdHAcIaIcJAbHA
  dKAbHAdLAbLAdMAcNAbGAcNAcYAdOOcPAbHAdRAcSAbHAcSAdTAbHAcTAbHAeUaUcVAbEDIC_ANUSVARAiDOUBLE_ANUSVARA
  uOCALIC_LaLcRaRkYAjOMcSIGN_ANUSVARAhVAGRAHAiCANDRABINDUkOMBINING_ANUSVARA_ABOVEyNUKTAfPLUTA
  fVIRAMAeSARGAmVOWEL_SIGN_AAbIbUcEEcIaIcOOcUaUcVOCALIC_LaLcRaRzbPESdVE_ACCENT
  kEATER-THAN_ABOVE_DOUBLE-LINE_EQUAL_ABOVE_LESS-THANziLESS-THAN_ABOVE_DOUBLE-LINE_EQUAL
  ziRIGHTWARDS_ARROWqSIMILAR_ABOVE_LESS-THANpOR_EQUAL
  pLANTED_EQUAL_ABOVE_LESS-THAN_ABOVE_SLANTED_EQUALzzeND_NOT_APPROXIMATEpSINGLE-LINE_NOT_EQUAL_TO
  zdBESIDE_LESS-THANpUT_NOT_EQUAL_TOfIVALENT_TOvCLOSED_BY_CURVEa_ABOVE_SLANTED_EQUAL
  zkEQUAL_TO_OR_LESS-THANvOR_APPROXIMATElEQUAL_TOfIVALENT_TOnLESS-THANjSLANTED_EQUAL_TO
  a_WITH_DOT_ABOVEa_LEFTkINSIDEzjVER_EQUAL_TOjLAPPING_LESS-THANvSIGNeWITH_CIRCLE_INSIDEnDOT
  dQUESTION_MARK_ABOVEzjEK_ACROPHONIC_ATTIC_FIFTYa_STATERShTALENTSgHOUSANDa_STATERSuVEa_HUNDRED
  a_STATERShTALENTSpSTATERShTALENTSgHOUSANDa_TALENTSvONE_DRACHMAhHALFdUNDRED_STATERShTALENTS
  pQUARTERhTHOUSAND_STATERShTALENTSuTEN_MNASeSTATERShTALENTSgHOUSAND_STATERS
  zbCARYSTIAN_FIVE_HUNDREDvYRENAIC_TWO_DRACHMASvDELPHIC_FIVE_MNASrEPIDAUREAN_FIVE_HUNDREDmTWO
  a_DRACHMASxHERAEUM_ONE_PLETHRONrMIONIAN_FIFTYfONEdTENoMESSENIAN_TENnNAXIAN_FIVE_HUNDRED
  tSTRATIAN_FIFTY_MNAStTHESPIAN_FIFTYdVE_HUNDREDhTHOUSANDnONEa_HUNDREDhTHOUSANDmTENcHIRTY
  eREE_HUNDREDmWOlROEZENIAN_FIFTYa_ALTERNATE_FORMsVEa_HUNDREDmTENa_ALTERNATE_FORMzoNO_TELEIA
  jROURA_SIGNjTABE_SIGNlBETA_SYMBOLlCAPITAL_DOTTED_LUNATE_SIGMA_SYMBOLzbKAI_SYMBOLkLETTER_ALPHA
  a_WITH_DASIAa_AND_OXIAa_AND_PROSGEGRAMMENIxPERISPOMENIa_AND_PROSGEGRAMMENIzeROSGEGRAMMENIoVARIA
  a_AND_PROSGEGRAMMENIzjMACRONgOXIAePROSGEGRAMMENInSILIa_AND_OXIAa_AND_PROSGEGRAMMENIxPERISPOMENI
  a_AND_PROSGEGRAMMENIzeROSGEGRAMMENIoVARIAa_AND_PROSGEGRAMMENIzjTONOSfVARIAeRACHYqRCHAIC_SAMPI
  nBETAeCHIdDELTAfEPSILONa_WITH_DASIAa_AND_OXIAeVARIApOXIAePSILIa_AND_OXIAeVARIApTONOSfVARIArTA
  a_WITH_DASIAa_AND_OXIAa_AND_PROSGEGRAMMENIxPERISPOMENIa_AND_PROSGEGRAMMENIzeROSGEGRAMMENIoVARIA
  a_AND_PROSGEGRAMMENIzjOXIAePROSGEGRAMMENInSILIa_AND_OXIAa_AND_PROSGEGRAMMENIxPERISPOMENI
  a_AND_PROSGEGRAMMENIzeROSGEGRAMMENIoVARIAa_AND_PROSGEGRAMMENIzjTONOSfVARIAoGAMMAfHETAeIOTA
  a_WITH_DASIAa_AND_OXIAePERISPOMENIlVARIAoIALYTIKAjMACRONgOXIAePSILIa_AND_OXIAePERISPOMENIlVARIA
  pTONOSfVARIAeRACHYqKAPPAfLAMDAfMUcNUcOMEGAa_WITH_DASIAa_AND_OXIAa_AND_PROSGEGRAMMENIxPERISPOMENI
  a_AND_PROSGEGRAMMENIzeROSGEGRAMMENIoVARIAa_AND_PROSGEGRAMMENIzjOXIAePROSGEGRAMMENInSILIa_AND_OXIA
  a_AND_PROSGEGRAMMENIxPERISPOMENIa_AND_PROSGEGRAMMENIzeROSGEGRAMMENIoVARIAa_AND_PROSGEGRAMMENI
  zjTONOSfVARIAoICRONa_WITH_DASIAa_AND_OXIAeVARIApOXIAePSILIa_AND_OXIAeVARIApTONOSfVARIA
  sPAMPHYLIAN_DIGAMMArHIcIbSIdRHOa_WITH_DASIAoSANcHOcIGMAfTAUcHETAfUPSILONa_WITH_DASIAa_AND_OXIA
  ePERISPOMENIlVARIAoIALYTIKAjMACRONgOXIAeTONOSfVARIAeRACHYtXIcYOTdZETAkUNATE_SIGMA_SYMBOL
  tREVERSED_DOTTED_LUNATE_SIGMA_SYMBOLzbLUNATE_SIGMA_SYMBOLzdTHETA_SYMBOLuDASIAa_AND_OXIA
  ePERISPOMENIlVARIAoIALYTIKA_AND_OXIAePERISPOMENIlVARIAjTONOSoRACHMA_SIGNmFIVE_OBOLS_SIGN
  oOUR_OBOLS_SIGNpGRAMMA_SIGNlINDICTION_SIGNmSTRUMENTAL_NOTATION_SYMBOL-1a1b2b3b4b7b8b9c2a3b4b5b6b7
  b9c30b2b6b7b8b9c4a0b2b3b5b7b8b9c5a0b1b2b3b4c7b8zfKAI_SYMBOLiPPA_SYMBOLlORONISgYATHOS_BASE_SIGN
  rLETTER_ARCHAIC_KOPPAnDIGAMMAhKOPPAfSAMPIeMALL_CAPITAL_GAMMAfLAMDAfOMEGAfPIbSIdRHOqTIGMAgYOT
  jITRA_SIGNjOWER_NUMERAL_SIGNrUNATE_EPSILON_SYMBOLoSIGMA_SYMBOLtMETRETES_SIGNmUSICAL_LEIMMA
  oNUMERAL_SIGNmOBOL_SIGNiNE_HALF_SIGNa_ALTERNATE_FORMyQUARTER_SIGNpUNKIA_SIGNkXIAePERISPOMENI
  kHI_SYMBOLjI_SYMBOLiROSGEGRAMMENInSILIa_AND_OXIAePERISPOMENIlVARIApQUESTION_MARK
  nREVERSED_LUNATE_EPSILON_SYMBOLzeHO_SYMBOLgWITH_STROKE_SYMBOLwSINUSOID_SIGN
  mMALL_DOTTED_LUNATE_SIGMA_SYMBOLzbLETTER_ALPHAa_WITH_DASIAa_AND_OXIAa_AND_YPOGEGRAMMENI
  wPERISPOMENIa_AND_YPOGEGRAMMENIzeVARIAa_AND_YPOGEGRAMMENIxYPOGEGRAMMENIxMACRONgOXIA
  a_AND_YPOGEGRAMMENIwPERISPOMENIa_AND_YPOGEGRAMMENIzdSILIa_AND_OXIAa_AND_YPOGEGRAMMENIwPERISPOMENI
  a_AND_YPOGEGRAMMENIzeVARIAa_AND_YPOGEGRAMMENIxYPOGEGRAMMENIxTONOSfVARIAa_AND_YPOGEGRAMMENIwRACHY
  gYPOGEGRAMMENIxRCHAIC_KOPPAfSAMPInBETAeCHIdDELTAeIGAMMAhEPSILONa_WITH_DASIAa_AND_OXIAeVARIApOXIA
  ePSILIa_AND_OXIAeVARIApTONOSfVARIArTAa_WITH_DASIAa_AND_OXIAa_AND_YPOGEGRAMMENIwPERISPOMENI
  a_AND_YPOGEGRAMMENIzeVARIAa_AND_YPOGEGRAMMENIxYPOGEGRAMMENIxOXIAa_AND_YPOGEGRAMMENIwPERISPOMENI
  a_AND_YPOGEGRAMMENIzdSILIa_AND_OXIAa_AND_YPOGEGRAMMENIwPERISPOMENIa_AND_YPOGEGRAMMENIzeVARIA
  a_AND_YPOGEGRAMMENIxYPOGEGRAMMENIxTONOSfVARIAa_AND_YPOGEGRAMMENIxYPOGEGRAMMENIwFINAL_SIGMAlGAMMA
  fHETAeIOTAa_WITH_DASIAa_AND_OXIAePERISPOMENIlVARIAoIALYTIKAa_AND_OXIAePERISPOMENIlTONOSfVARIA
  tMACRONgOXIAePERISPOMENIkSILIa_AND_OXIAePERISPOMENIlVARIApTONOSfVARIAeRACHYqKAPPAeOPPAfLAMDAfMU
  cNUcOMEGAa_WITH_DASIAa_AND_OXIAa_AND_YPOGEGRAMMENIwPERISPOMENIa_AND_YPOGEGRAMMENIzeVARIA
  a_AND_YPOGEGRAMMENIxYPOGEGRAMMENIxOXIAa_AND_YPOGEGRAMMENIwPERISPOMENIa_AND_YPOGEGRAMMENIzdSILI
  a_AND_OXIAa_AND_YPOGEGRAMMENIwPERISPOMENIa_AND_YPOGEGRAMMENIzeVARIAa_AND_YPOGEGRAMMENI
  xYPOGEGRAMMENIxTONOSfVARIAa_AND_YPOGEGRAMMENIxYPOGEGRAMMENIwICRONa_WITH_DASIAa_AND_OXIAeVARIA
  pOXIAePSILIa_AND_OXIAeVARIApTONOSfVARIAsPAMPHYLIAN_DIGAMMArHIcIbSIdRHOa_WITH_DASIAfPSILIoSAMPIdN
  cHOcIGMAeTIGMAgTAUcHETAfUPSILONa_WITH_DASIAa_AND_OXIAePERISPOMENIlVARIAoIALYTIKAa_AND_OXIA
  ePERISPOMENIlTONOSfVARIAtMACRONgOXIAePERISPOMENIkSILIa_AND_OXIAePERISPOMENIlVARIApTONOSfVARIA
  eRACHYtXIcZETAlREVERSED_DOTTED_LUNATE_SIGMA_SYMBOLzbLUNATE_SIGMA_SYMBOL
  ziUBSCRIPT_SMALL_LETTER_BETAeCHIdGAMMAfPHIdRHOzYMBOL_TAU_RHOoTALENT_SIGNkHETA_SYMBOL
  kREE_OBOLS_SIGNkQUARTERS_SIGNsONOSeRYBLION_BASE_SIGNrWO_OBOLS_SIGNkTHIRDS_SIGN
  pUPSILON_WITH_ACUTE_AND_HOOK_SYMBOLvDIAERESIS_AND_HOOK_SYMBOLzHOOK_SYMBOLyVARIA
  eOCAL_NOTATION_SYMBOL-1a0b1b2b3b4b5b6b7b8b9c2a0b1b2b3b4c3b4b5a0b1b2b3b4c6b7b8b9xXESTES_SIGN
  lYEAR_SIGNiPOGEGRAMMENInZERO_SIGNlN_APPLEfBOOKeHEARTfSALADjIMACING_FACE
  lNNING_CAT_FACE_WITH_SMILING_EYESzbFACEa_WITH_ONE_LARGE_AND_ONE_SMALL_EYEzcSMILING_EYESlTAR_EYES
  zbOUP_MARKeSEPARATORmWING_HEARTmSbUARANI_SIGNiDSMANhIDE_DOGgTAReJARATI_ABBREVIATION_SIGN
  rDIGIT_EIGHTfFIVEdOUReNINEeONEdSEVENeIXdTHREEeWOdZEROkLETTER_AaAbIbUcBAbHAdCAbHAdDAbDAbHAdHAdEbGA
  bHAdHAcIaIcJAbHAdKAbHAdLAbLAdMAcNAbGAcNAcYAdObPAbHAdRAcSAbHAcSAdTAbHAcTAbHAeUaUcVAbOCALIC_LaLcRaR
  kYAcZHAkOMcRUPEE_SIGNkSIGN_ANUSVARAhVAGRAHAiCANDRABINDUkIRCLE_NUKTA_ABOVEsMADDAHgNUKTAfSHADDA
  fUKUNfTHREE-DOT_NUKTA_ABOVEuWO-CIRCLE_NUKTA_ABOVEwVIRAMAeSARGAmVOWEL_CANDRA_EbOiSIGN_AAbIbU
  cCANDRA_EbOiEbIaIcObUaUcVOCALIC_LaLcRaRzdNJALA_GONDI_DIGIT_EIGHTfFIVEdOUReNINEeONEdSEVENeIXdTHREE
  eWOdZEROkLETTER_AaAbIbUcBAbHAdCAbHAdDAbDAbHAdHAdEEcGAbHAdHAcIaIcJAbHAdKAbHAdLAbLAdMAcNAbGAdOOcPA
  bHAdRAcSAcTAbHAcTAbHAeUaUcVAcYAjOMcSIGN_ANUSVARAiVISARGAmVIRAMAfOWEL_SIGN_AAbIbUcEEcIaIcOOcUaU
  zRMUKHI_ABBREVIATION_SIGNqDDAKfDIGIT_EIGHTfFIVEdOUReNINEeONEdSEVENeIXdTHREEeWOdZEROkEK_ONKARiIRI
  dLETTER_AaAbIbUcBAbHAdCAbHAdDAbDAbHAdHAdEEcFAcGAbHAbHAeHAcIaIcJAbHAdKAbHAbHAeLAbLAdMAcNAbGAcNAcYA
  dOOcPAbHAdRAbRAdSAbHAdTAbHAcTAbHAeUaUcVAcYAcZAjSIGN_ADAK_BINDIkBINDIfNUKTAfUDAATfVIRAMAeSARGA
  hYAKASHlTIPPIfURAdVOWEL_SIGN_AAbIbUcEEcIaIcOOcUaUwHADESdIR_SPACEgCUTfLFWIDTH_BLACK_SQUARE
  mDOWNWARDS_ARROWpFORMS_LIGHT_VERTICALuHANGUL_FILLERgLETTER_AaEcCHIEUCHgIEUCfEaObUcHIEUHfIaEUNG
  fKHIEUKHgIYEOKa-SIOSlMIEUMfNIEUNa-CIEUCfHIEUHlOaEcPHIEUPHgIEUPa-SIOSkRIEULa-HIEUHfKIYEOKgMIEUM
  fPHIEUPHgIEUPfSIOSeTHIEUTHnSIOSdSANGCIEUCfKIYEOKgPIEUPfSIOSeTIKEUTlTHIEUTHgIKEUTgUbWAaEcEaOcIcYA
  aEcEaOcIbObUqIDEOGRAPHIC_COMMAfFULL_STOPvKATAKANA_LETTER_AbEbHAbEbIbObUcIbKAbEbIbObUcMAbEbIbObUcN
  aAbEbIbObUcObRAbEbIbObUcSAbEbIbMALL_AbEbIbObTUcUbYAbObUhObUcTAbEbIbObUcUbWAbOcYAbObUjMIDDLE_DOT
  kSEMI-VOICED_SOUND_MARKwVOICED_SOUND_MARKs-HIRAGANA_PROLONGED_SOUND_MARKznLEFT_CORNER_BRACKET
  pWARDS_ARROWpRIGHT_CORNER_BRACKETpWARDS_ARROWqUPWARDS_ARROWnWHITE_CIRCLEuMBURGERgMERa_AND_PICK
  eSICKLEgWRENCHoSAbTER_FACEkND_WITH_INDEX_AND_MIDDLE_FINGERS_CROSSEDzbFINGER_AND_THUMB_CROSSED
  zlBAGbLLeSHAKEgGUL_CHOSEONG_CEONGCHIEUMCHIEUCHgIEUCfSIOSdSANGCIEUCfSIOStHIEUCHa-HIEUHfKHIEUKH
  mTUEUMCHIEUCHgIEUCfSIOSdSANGCIEUCfSIOSqIEUCa-IEUNGlFILLERgHIEUHa-SIOSkIEUNGa-CHIEUCHgIEUCfHIEUH
  fKIYEOKgMIEUMfPANSIOSgHIEUPHgIEUPfRIEULfSIOSeTHIEUTHgIKEUTmKAPYEOUNMIEUMfPHIEUPHgIEUPfRIEUL
  fSSANGPIEUPrHIEUKHgIYEOKa-TIKEUTnMIEUMa-KIYEOKgPIEUPfSIOSeTIKEUTmNIEUNa-CIEUCfHIEUHfKIYEOKgPIEUP
  fSIOSeTIKEUTmPANSIOSgHIEUPHa-HIEUHfPIEUPmIEUPa-CHIEUCHgIEUCfHIEUHfKHIEUKHgIYEOKgNIEUNfPHIEUPH
  hSIOSa-CIEUCfKIYEOKgPIEUPfTHIEUTHgIKEUTkSANGSIOSjTHIEUTHgIKEUTmRIEULa-CIEUCfHIEUHfKAPYEOUNPIEUP
  mHIEUKHgIYEOKgMIEUMfNIEUNfPIEUPfSIOSdSANGKIYEOKgPIEUPfTIKEUTlTIKEUTmSIOSa-CHIEUCHgIEUCfHIEUH
  fIEUNGfKHIEUKHgIYEOKgMIEUMfNIEUNfPHIEUPHgIEUPa-KIYEOKmRIEULfSSANGSIOSjTHIEUTHgIKEUTkSANGCIEUC
  a-HIEUHlHIEUHfIEUNGfKIYEOKgNIEUNfPIEUPfRIEULfSIOSa-PIEUPkTHIEUTHgIKEUTgYEORINHIEUHqTHIEUTHgIKEUT
  a-CIEUCfKIYEOKgMIEUMfPIEUPfRIEULfSIOSlYEORINHIEUHjSIEUNGrDOUBLE_DOT_TONE_MARKuFILLER
  gJONGSEONG_CHIEUCHgIEUCa-PIEUPfSSANGPIEUPqHIEUHa-MIEUMfNIEUNfPIEUPfRIEULlIEUNGa-KHIEUKHgIYEOK
  gSSANGKIYEOKrKAPYEOUNMIEUMfPHIEUPHgIEUPfRIEULmHIEUKHgIYEOKa-CHIEUCHhHIEUHfKHIEUKHhNIEUNfPIEUP
  fRIEULfSIOSa-KIYEOKsMIEUMa-CHIEUCHgIEUCfHIEUHfKIYEOKgNIEUNfPANSIOSgIEUPa-SIOSkRIEULfSIOS
  dSANGNIEUNfSIOSpNIEUNa-CHIEUCHgIEUCfHIEUHfKIYEOKgPANSIOShRIEULfSIOSeTHIEUTHgIKEUTmPANSIOS
  a-KAPYEOUNPIEUPnPIEUPmHIEUPHa-PIEUPfSIOSeTHIEUTHoIEUPa-CHIEUCHgIEUCfHIEUHfMIEUMfPHIEUPHhRIEUL
  a-PHIEUPHnSIOSa-TIKEUTlTIKEUTmRIEULa-HIEUHfKAPYEOUNPIEUPmHIEUKHgIYEOKa-HIEUHfSIOSlMIEUMa-HIEUH
  fKIYEOKgSIOSkNIEUNfPANSIOSgHIEUPHgIEUPa-HIEUHfPHIEUPHhSIOSeTIKEUTmSIOSdSANGKIYEOKgSIOSjTHIEUTH
  gIKEUTa-HIEUHmYEORINHIEUHa-HIEUHpSIEUNGoSIOSa-CHIEUCHgIEUCfHIEUHfKAPYEOUNPIEUPmIYEOKgMIEUM
  fPANSIOSgIEUPfRIEULfTHIEUTHgIKEUTkSANGCIEUCfIEUNGfKIYEOKgMIEUMfNIEUNfPIEUPfRIEULa-KHIEUKHnSIOS
  a-KIYEOKgTIKEUTlTIKEUTa-PIEUPmYESIEUNGnTHIEUTHgIKEUTa-CHIEUCHgIEUCfKIYEOKgPIEUPfRIEULfSIOS
  a-KIYEOKlTHIEUTHoYEORINHIEUHjSIEUNGa-HIEUHfKHIEUKHgIYEOKgMIEUMfPANSIOShSIOSdSANGKIYEOK
  zeUNGSEONG_Aa-EUcObUcEbRAEAa-AbEaOcIbUhEaOa-EUcObUdUa-AbEaObUcObUeFILLERgIa-AaRAEAfEUcIbOa-IdUbYA
  a-OcEcEaOcObUeOa-EaOcOa-IdUbYAaEcEaOeEcSSANGARAEAkUa-AaEcEO-EUfI-IdUbYEaOfWAaEcEaOcIcYAa-ObUbYOdE
  cEaOa-ObUbYAfIa-UdOa-AaEcEOcIbObYAaEcEOfUa-AaEcEaOcIbObUbYEaOqLETTER_AaEbRAEAaEgCHIEUCHgIEUCfEaO
  bUcHIEUHfIaEUNGfKAPYEOUNMIEUMfPHIEUPHgIEUPfSSANGPIEUPrHIEUKHgIYEOKa-SIOSlMIEUMa-PANSIOSgIEUPfSIOS
  kNIEUNa-CIEUCfHIEUHfPANSIOShSIOSeTIKEUTmOaEcPANSIOSgHIEUPHgIEUPa-CIEUCfKIYEOKgSIOSa-KIYEOKgTIKEUT
  lTHIEUTHgIKEUTmRIEULa-HIEUHfKIYEOKa-SIOSlMIEUMfPANSIOSgHIEUPHgIEUPa-SIOSkSIOSeTHIEUTHgIKEUT
  gYEORINHIEUHrSIOSa-CIEUCfKIYEOKgNIEUNfPIEUPfTIKEUTkSANGCIEUCfHIEUHfIEUNGfKIYEOKgNIEUNfPIEUPfSIOS
  eTIKEUTlTHIEUTHgIKEUTgUbWAaEcEaOcIcYAaEcEaOaRINHIEUHjSIEUNGa-PANSIOShSIOSmIbOa-IbYAaEfUa-IbYEaO
  nSINGLE_DOT_TONE_MARKxZHOU_NUMERAL_EIGHTfFIVEdOUReNINEeONEdSEVENeIXdTENcHIRTYeREEeWENTYeO
  rIFI_ROHINGYA_DIGIT_EIGHTfFIVEdOUReNINEeONEdSEVENeIXdTHREEeWOdZEROkLETTER_AbBAcCAcDAbDAdFAcGAcHA
  cJAcKAbHAcINNA_WAcYAiLAcMAcNAbGAcYAdPAcRAbRAdSAbHAdTAbTAdVAcWAcYAcZAjMARK_NA_KHONNAjSAKIN
  kSIGN_HARBAHAYiTAHALAeNAcSSIkVOWEL_AbEbIbObUuUNOO_LETTER_AbBAcDAcGAcHAcIbKAcLAcMAcNAbGAdPAcRAcSA
  cTAcUbWAcYAjSIGN_PAMUDPODnVOWEL_SIGN_IbUsPPY_PERSON_RAISING_ONE_HANDzcRD_DISKhTCHING_CHICK
  lRAN_LETTER_ALEPHeYNdBETHeDALETH-RESHlGIMELfHEaTHeKAPHeLAMEDHgMEMdNUNdPEcQOPHeSADHEdMEKHfHINeTAW
  cETHeWAWdYODHeZAYNlNUMBER_FIVEeONEa_HUNDREDlTENcWENTYtEADPHONEfSTONEa_GRAVEYARD_SYMBOL
  xR-NO-EVIL_MONKEYpT_DECORATIONkHANDSfWITH_ARROWfRIBBONgTIP_ON_THE_LEFTxVY_AMPERSAND_ORNAMENT
  rRROW_SHAFT_WIDTH_ONEa_HALFeTHIRDjTWO_THIRDSzcSTERISKiBALLOT_X
  hLACK_CURVED_DOWNWARDS_AND_RIGHTWARDS_ARROWzfUPWARDS_AND_RIGHTWARDS_ARROWzkHEART
  g-FEATHERED_NORTH_EAST_ARROWqRIGHTWARDS_ARROWqSOUTH_EAST_ARROWzhCHECK_MARKhVRON_SNOWFLAKEqIRCLE
  a_WITH_CIRCLE_INSIDEnSTROKE_AND_TWO_DOTS_ABOVEzgD_SALTIREoONCAVE-POINTED_BLACK_RIGHTWARDS_ARROW
  znDASHED_TRIANGLE-HEADED_RIGHTWARDS_ARROWznIVISION_SIGNmOLLAR_SIGN
  jUBLE_COMMA_QUOTATION_MARK_ORNAMENTzeTURNED_COMMA_QUOTATION_MARK_ORNAMENT
  zqWNWARDS_ARROW_WITH_EQUILATERAL_ARROWHEADvLARGE_EQUILATERAL_ARROWHEADzxEIGHT_POINTED_BLACK_STAR
  kPINWHEEL_STARnRECTILINEAR_BLACK_STARzfSPOKED_ASTERISKpTEARDROP-SPOKED_PROPELLER_ASTERISK
  zoQUALS_SIGNkXCLAMATION_MARK_ORNAMENTiSYMBOLxFIVE_POINTED_BLACK_STARsSPOKED_ASTERISK
  tOUR_BALLOON-SPOKED_ASTERISKzdGREEK_CROSSlHEART_EXCLAMATION_MARK_ORNAMENTzfORIZONTAL_FILL
  pINTERROBANG_ORNAMENTuLARGE_CIRCLEkTIN_CROSSkEFT-POINTING_ANGLE_BRACKET_ORNAMENT
  qQUOTATION_MARK_ORNAMENTzoWARDS_ARROW_WITH_EQUILATERAL_ARROWHEADvLARGE_EQUILATERAL_ARROWHEAD
  zwIGATURE_OPEN_ET_ORNAMENTyOW_DOUBLE_COMMA_QUOTATION_MARK_ORNAMENT
  zlSINGLE_COMMA_QUOTATION_MARK_ORNAMENTzmER_RIGHT-SHADOWED_WHITE_RIGHTWARDS_ARROWzsMINUS_SIGN
  jULTIPLICATION_XqNORTH_EAST_ARROWfPOINTING_BUDdVINE_LEAFxWEST_POINTING_BUDdVINE_LEAF
  zeOPEN_CENTRE_CROSSqUTLINED_BLACK_STARsVAL_WITH_OVAL_INSIDEvPLUS_SIGN
  jRIGHT-POINTING_ANGLE_BRACKET_ORNAMENTqQUOTATION_MARK_ORNAMENTzoWARDS_ARROW
  a_WITH_EQUILATERAL_ARROWHEADvLARGE_EQUILATERAL_ARROWHEADzxOUND-TIPPED_RIGHTWARDS_ARROWzeSALTIRE
  fNS-SERIF_INTERROBANG_ORNAMENTzfCRIPT_LIGATURE_ET_ORNAMENTzbINGLE_COMMA_QUOTATION_MARK_ORNAMENT
  zeTURNED_COMMA_QUOTATION_MARK_ORNAMENTzqX_POINTED_BLACK_STARsSPOKED_ASTERISKsOUTH_EAST_ARROW
  fPOINTING_BUDdVINE_LEAFxWEST_POINTING_BUDdVINE_LEAFzdPARKLEhTEARDROP-SHANKED_RIGHTWARDS_ARROW
  xPOKED_ASTERISKiPINWHEEL_ASTERISKzhRIANGLE-HEADED_RIGHTWARDS_ARROWzgWELVE_POINTED_BLACK_STAR
  kPINWHEEL_STARzdUPPER_RIGHT-SHADOWED_WHITE_RIGHTWARDS_ARROW
  zqWARDS_ARROW_WITH_EQUILATERAL_ARROWHEADvLARGE_EQUILATERAL_ARROWHEADzvVERTICAL_BAR
  mWEDGE-TAILED_RIGHTWARDS_ARROWzdHITE_CIRCLEgDOWN-POINTING_TRIANGLEwSQUARE
  lIDE-HEADED_RIGHTWARDS_ARROWzhBREW_ACCENT_ATNAH_HAFUKHmDARGAeEHIeETNAHTAhGERESHa_MUQDAMkSHAYIM
  jILUYeMAHAPAKHhERKHAa_KEFULAmUNAHfOLEdPASHTAeZERfQADMAdRNEY_PARAlREVIAfSEGOLeHALSHELET
  kTELISHA_GEDOLAgQETANAmVIReIPEHAgYERAH_BEN_YOMOmTIVfZAQEF_GADOLfQATANjRQAeINORmLETTER_ALEF
  a_WITH_MAPIQfPATAHfQAMATSoTERNATIVE_AYINePLUS_SIGNuYINeBETa_WITH_DAGESHgRAFEnDALETa_WITH_DAGESH
  rFINAL_KAFa_WITH_DAGESHpMEMdNUNdPEa_WITH_DAGESHoTSADIlGIMELa_WITH_DAGESHrHEa_WITH_MAPIQlTdKAF
  a_WITH_DAGESHgRAFEnLAMEDa_WITH_DAGESHrMEMa_WITH_DAGESHpNUNa_WITH_DAGESHpPEa_WITH_DAGESHgRAFEmQOF
  a_WITH_DAGESHpRESHa_WITH_DAGESHqSAMEKHa_WITH_DAGESHrHINa_WITH_DAGESHa_AND_SHIN_DOThIN_DOT
  sSHIN_DOThIN_DOTrTAVa_WITH_DAGESHoETa_WITH_DAGESHoSADIa_WITH_DAGESHrVAVa_WITH_DAGESHgHOLAM
  oWIDE_ALEFeDALETfFINAL_MEMjHEcKAFdLAMEDfRESHeTAViYODa_WITH_DAGESHgHIRIQoZAYINa_WITH_DAGESH
  xIGATURE_ALEF_LAMEDkYIDDISH_DOUBLE_VAVdYODkVAV_YODhYOD_YOD_PATAHzfMARK_LOWER_DOTjMASORA_CIRCLE
  nUPPER_DOToPOINT_DAGESH_OR_MAPIQpHATAF_PATAHfQAMATSgSEGOLkIRIQeOLAMa_HASER_FOR_VAV
  tJUDEO-SPANISH_VARIKAuMETEGfPATAHfQAMATSa_QATANlUBUTSgRAFEeSEGOLeHEVAdIN_DOThIN_DOThTSERE
  kUNCTUATION_GERESHdSHAYIMjMAQAFfNUN_HAFUKHAlPASEQfSOF_PASUQvYOD_TRIANGLErDGEHOGgLICOPTER
  hLSCHREIBER_PAUSE_SYMBOLxM_SYMBOLhET_WITH_WHITE_CROSSvNTAIGANA_LETTER_A-1b2b3bWOeE-1b2b3b4b5b6
  dHA-1a0b1c2b3b4b5b6b7b8b9dE-1b2b3b4b5b6b7dI-1b2b3b4b5b6b7dO-1b2b3b4b5b6b7b8dU-1b2b3eI-1b2b3b4
  dKA-1a0b1c2b3b4b5b6b7b8b9bKEeE-1b2b3b4b5b6dI-1b2b3b4b5b6b7b8dO-1b2b3bKIeU-1b2b3b4b5b6b7eMA-1b2b3
  b4b5b6b7dE-1b2bMAeI-1b2b3b4b5b6b7dO-1b2b3b4b5b6dU-1b2b3b4eN-MU-MO-1b2iA-1b2b3b4b5b6b7b8b9dE-1b2b3
  b4b5b6bKOeI-1b2b3b4b5b6b7bTEeO-1b2b3b4b5dU-1b2b3eO-1b2b3dRA-1b2b3b4dE-1b2b3b4dI-1b2b3b4b5b6b7dO-1
  b2b3b4b5b6dU-1b2b3b4b5b6eSA-1b2b3b4b5b6b7b8dE-1b2b3b4b5dI-1b2b3b4b5b6dO-1b2b3b4b5b6b7dU-1b2b3b4b5
  b6b7b8eTA-1b2b3b4dE-1b2b3b4b5b6b7b8b9dI-1b2b3b4b5b6b7dO-1b2b3b4b5b6bRAeU-1b2b3b4bTOfU-1b2b3b4b5
  dWA-1b2b3b4b5dE-1b2b3b4dI-1b2b3b4b5dO-1b2b3b4b5b6b7eYA-1b2b3b4b5bYOeO-1b2b3b4b5b6dU-1b2b3b4uRB
  bMITIAN_CONJUGATE_MATRIXyXAGRAM_FOR_ABUNDANCEiFTER_COMPLETIONpPPROACHiBEFORE_COMPLETION
  qITING_THROUGHnREAKTHROUGHmCOMING_TO_MEETmNFLICTfTEMPLATIONnDARKENING_OF_THE_LIGHTvECREASE
  gLIVERANCEjVELOPMENTkIFFICULTY_AT_THE_BEGINNINGzSPERSIONjURATIONiENTHUSIASMkFELLOWSHIPjOLLOWING
  jGATHERING_TOGETHERrRACEdEAT_POSSESSIONiWEReREPONDERANCEnTAMINGmHOLDING_TOGETHERqINCREASEgFLUENCE
  hNER_TRUTHiOCENCEjLIMITATIONkMODESTYfUTH_CORNERSnOBSTRUCTIONkPPOSITIONhRESSIONkPEACEeROGRESS
  hUSHING_UPWARDoRETREATeURNeVOLUTIONkSMALL_PREPONDERANCEnTAMINGlPLITTING_APARToTANDSTILL
  kTHE_ABYSMAL_WATERmRMYcOUSING_THUNDERqCAULDRONhLINGING_FIREmREATIVE_HEAVENpFAMILYgGENTLE_WIND
  lJOYOUS_LAKElKEEPING_STILL_MOUNTAINwMARRYING_MAIDENpRECEPTIVE_EARTHpWANDERERhELLhREADINGiWAITING
  gORK_ON_THE_DECAYEDtYOUTHFUL_FOLLYzbIBISCUSgGH_BRIGHTNESS_SYMBOLrOCTET_PRESETmVOLTAGE_SIGN
  n-HEELED_SHOElSPEED_TRAINa_WITH_BULLET_NOSEzgKING_BOOTjNDU_TEMPLEkPPOPOTAMUSkRAGANA_DIGRAPH_YORI
  mITERATION_MARKoLETTER_AaRCHAIC_WUcYEkBAbEbIbObUcDAbEbIbObUcEbGAbEbIbObUcHAbEbIbObUcIbKAbEbIbObU
  cMAbEbIbObUcNaAbEbIbObUcObPAbEbIbObUcRAbEbIbObUcSAbEbIbMALL_AbEbIbKAbEcObTUcUbWAbEbIbOcYAbObUhObU
  cTAbEbIbObUcUbVUcWAbEbIbOcYAbObUcZAbEbIbObUjVOICED_ITERATION_MARKzdSTORIC_SITEmOCHOdLE
  bLOW_QUILT_SQUARE_ORNAMENTa_IN_BLACK_SQUAREzrMOTHETICiNEY_POTeBEEgOKcPbRIZONTAL_BARcLACK_HEXAGON
  hOCTAGONnELLIPSISiLINE_EXTENSIONoMALE_WITH_STROKE_SIGNvONE_EIGHTH_BLOCK-1358e2b3b4b5b6b7
  sSCAN_LINE-1b3b7b9lTAB_KEYeULATIONa_SETdWITH_JUSTIFICATIONzdRAFFIC_LIGHTvSEa_FACEeRACINGkSPITAL
  gT_BEVERAGEiDOGdPEPPERgSPRINGSiELdURGLASSa_WITH_FLOWING_SANDySEa_BUILDINGaSjWITH_GARDEN
  qRYVNIA_SIGNlTaJbScUGGING_FACEkNDRED_POINTS_SYMBOLtSHED_FACEjTcYGIEAePHENa_BULLETgWITH_DIAERESIS
  p-MINUSgATION_POINToODIASTOLEkSTERESIS_SYMBOLrI_LOVE_YOU_HAND_SIGNtCE_CREAMeUBE
  eHOCKEY_STICK_AND_PUCKvSKATEiDENTICAL_TOa_AND_SLANTED_PARALLELxWITH_DOT_ABOVEsFICATION_CARD
  qOGRAPHIC_ANNOTATION_BOTTOM_MARKlEARTH_MARKkFIRST_MARKjOUR_MARKfTH_MARKlHEAVEN_MARKlLINKING_MARK
  mMAN_MARKhIDDLE_MARKlONE_MARKiREVERSE_MARKmSECOND_MARKlTHIRD_MARKiREE_MARKjOP_MARKhWO_MARK
  tCLOSING_MARKlOMMAfDEPARTING_TONE_MARKrSCRIPTION_CHARACTER_ABOVE_TO_BELOWfMIDDLE_AND_BELOW
  zFULL_SURROUNDnLEFT_TO_MIDDLE_AND_RIGHTqRIGHTnOVERLAIDiSURROUND_FROM_ABOVEfBELOWfLEFTdOWER_LEFT
  kUPPER_LEFTeRIGHTzwENTERING_TONE_MARKsFULL_STOPjHALF_FILL_SPACEpITERATION_MARKoLEVEL_TONE_MARK
  pNUMBER_ZEROlRISING_TONE_MARKqSPACEfTALLY_MARK_FIVEdOUReONEdTHREEeWO
  nELEGRAPH_LINE_FEED_SEPARATOR_SYMBOLzbSYMBOL_FOR_APRILeUGUSTgDAY_EIGHTaEENhLEVENgFIFTEENfVEdOUR
  aTEENiNINEaTEENiONEdSEVENaTEENiIXaTEENhTENcHIRTEENdYa-ONEiREEeWELVEdNTYa-EIGHTfFIVEdOUReNINEeONE
  dSEVENeIXdTHREEeWOiOgECEMBERiFEBRUARYiHOUR_EIGHTaEENhLEVENgFIFTEENfVEdOURaTEENiNINEaTEENiONE
  dSEVENaTEENiIXaTEENhTENcHIRTEENgREEeWELVEdNTYa-FOUReONEdTHREEeWOiOdZEROjJANUARYgULYcNEeMARCHdY
  dNOVEMBERiOCTOBERhSEPTEMBERzfVARIATION_INDICATORzfMAGE_OFa_OR_APPROXIMATELY_EQUAL_TOzhP
  aERIAL_ARAMAIC_LETTER_ALEPHeYINeBETHeDALETHgGIMELfHEaTHeKAPHeLAMEDHgMEMdNUNdPEcQOPHeRESHeSADHE
  dMEKHfHINeTAWcETHeWAWdYODHeZAYINmNUMBER_ONEa_HUNDREDhTHOUSANDmTENa_THOUSANDlHREEeWENTYeO
  kSECTION_SIGNzdNBOX_TRAYiCOMING_ENVELOPEmPLETE_INFINITYqREASE_FONT_SIZE_SYMBOLrS_AShMENThDaEX
  a_POINTING_AT_THE_VIEWERzIAN_RUPEE_SIGNnC_SIYAQ_ALTERNATE_LAKH_MARKtFRACTION_ONE_HALFeQUARTER
  lTHREE_QUARTERSxLAKH_MARKjNUMBER_ALTERNATE_ONEdTEN_THOUSANDlWOnEIGHTa_HUNDREDhTHOUSANDjY
  a_THOUSANDpFIFTYa_THOUSANDmVEa_HUNDREDhTHOUSANDmORTYa_THOUSANDmURa_HUNDREDhTHOUSANDnKARORaANhLAKH
  aANgNINEa_HUNDREDhTHOUSANDjTYa_THOUSANDpONEa_HUNDREDhTHOUSANDmPREFIXED_EIGHTfFIVEdOUReNINEeONE
  dSEVENeIXdTHREEeWOmSEVENa_HUNDREDhTHOUSANDjTYa_THOUSANDpIXa_HUNDREDhTHOUSANDjTYa_THOUSANDoTEN
  a_THOUSANDlHIRTYa_THOUSANDnREEa_HUNDREDhTHOUSANDnWENTYa_THOUSANDnOa_HUNDREDhTHOUSANDtPLACEHOLDER
  lRUPEE_MARKuFINITYa_NEGATED_WITH_VERTICAL_BARzgORMATION_DESK_PERSONlSEPARATOR_FOUReONEdTHREEeWO
  mOURCEqHIBIT_ARABIC_FORM_SHAPINGtSYMMETRIC_SWAPPINGyPUT_SYMBOL_FOR_LATIN_CAPITAL_LETTERSpLETTERS
  hSMALL_LETTERStNUMBERShSYMBOLSwSCRIPTIONAL_PAHLAVI_LETTER_ALEPHfBETHeDALETHgGIMELfHEaTHeKAPH
  eLAMEDHgMEM-QOPHiNUNdPEcSADHEdMEKHfHINeTAWcETHeWAW-AYIN-RESHnYODHeZAYINmNUMBER_FOUReONEa_HUNDRED
  hTHOUSANDmTENcHREEeWENTYeOqRTHIAN_LETTER_ALEPHeYINeBETHeDALETHgGIMELfHEaTHeKAPHeLAMEDHgMEMdNUNdPE
  cQOPHeRESHeSADHEdMEKHfHINeTAWcETHeWAWdYODHeZAYINmNUMBER_FOUReONEa_HUNDREDhTHOUSANDmTENcHREEeWENTY
  eOzfERTION_SYMBOLoTEGRALa_AROUND_A_POINT_OPERATORwVERAGE_WITH_SLASHsEXTENSIONjWITH_DOUBLE_STROKE
  nINTERSECTIONmLEFTWARDS_ARROW_WITH_HOOKzOVERBARhTIMES_SIGNkUNDERBARgIONpRCALATEgIOR_PRODUCT
  lLINEAR_ANNOTATION_ANCHORgSEPARATORjTERMINATORzcOCKED_FEMALE_AND_MALE_SIGNzcROBANGgSECTION
  a_ABOVE_BAR_ABOVE_UNIONpUNIONlBESIDE_AND_JOINED_WITH_INTERSECTIONzkWITH_DOTdLOGICAL_ANDlOVERBAR
  xVERSE_BULLETgCHECK_MARKfER_BOARD_FILLsDOWNWARDS_ARROW_WITH_TIP_LEFTWARDSzjMEDIUM_SHADE
  mWHITE_CIRCLEpTED_EXCLAMATION_MARKqINTERROBANGlLAZY_SfOW_KAVYKAa_WITH_KAVYKA_ABOVEzdOHM_SIGN
  iPENTAGRAMjQUESTION_MARKnUNDERTIEoISIBLE_PLUSeSEPARATORjTIMESoZAKAYA_LANTERNpJACK-O-LANTERN
  mPANESE_BANK_SYMBOLlCASTLEgDOLLSfGOBLINgINDUSTRIAL_STANDARD_SYMBOLzbOGREePOST_OFFICE
  lSYMBOL_FOR_BEGINNERzbRbVANESE_CONSONANT_SIGN_CAKRAfKERETfPENGKALwDIGIT_EIGHTfFIVEdOUReNINEeONE
  dSEVENeIXdTHREEeWOdZEROkLEFT_RERENGGANmTTER_AaIcBAa_MURDAiCAa_MURDAiDAa_MAHAPRANAlDAa_MAHAPRANAnE
  bGAa_MURDAiHAcIa_KAWIfIcJAa_MAHAPRANAmKAa_MURDAfSASAKiLAcMAcNAa_MURDAhGAa_LELETa_RASWADIqYA
  a_MURDAjObPAa_CEREKfMURDAiRAa_AGUNGiSAa_MAHAPRANAiURDAiTAa_MURDAhTAa_MAHAPRANAnUbWAcYAjPADA_ADEG
  a_ADEGiNDAPfISEN-ISENjLINGSAfUHURdNGSIgMADYAfPANGKATgISELEHhTIRTA_TUMETESnWINDUiNGKONdRANGKEP
  lRIGHT_RERENGGANpSIGN_CECAKa_TELUkLAYARfPANYANGGAjWIGNYANmTURNED_PADA_PISELEH
  tVOWEL_SIGN_DIRGA_MUREkPEPETfSUKUa_MENDUTlTALINGeRUNGfOLONGgWULUa_MELIKzeEANSeIGSAW_PUZZLE_PIECE
  sOINcYSTICKhUGGLINGgNOcPITERhKAABAdITHI_ABBREVIATION_SIGNrDANDAeOUBLE_DANDAfSECTION_MARK
  tENUMERATION_SIGNqLETTER_AaAbIbUcBAbHAdCAbHAdDAbDAbDHAdHAdHAdEbGAbHAdHAcIaIcJAbHAdKAbHAdLAcMAcNA
  bGAcNAcYAdObPAbHAdRAbHAdSAbHAcSAdTAbHAcTAbHAeUaUcVAcYAjNUMBER_SIGNa_ABOVErSECTION_MARK
  lIGN_ANUSVARAiCANDRABINDUlNUKTAfVIRAMAeSARGAmVOWEL_SIGN_AAbIbUcEbIaIcObUaUcVOCALIC_RzNGAROO
  eXI_RADICAL_AGAINeNDcRRIVEdOWeXEdBADGEReMBOOfEANdIGbRDcTTERfLACKdOODdUEdOATcDYcLT_OF_CLOTHlNEcW
  cRANCHeISTLEfUSHfCARTcULDRONgVEdHILDeITYdLANbWcIFFdOTHESgOLORdMPAREfRPSEeVERdWdDEATHdERdIPPEReSH
  bTINGUISHjVINATIONjO_NOTeGbORcTaTED_CLIFFfTENTjUBLE_XgWN_BOXhRAGONeUMcYdEARaTHdTcIGHTeMBROIDERY
  jNCLOSUREhTEReVENaINGgYEdFACEcNGcTHERfEATHERgIELDdGHTdREcSHdLUTEdYcOOTdRAGRANTgOGdURdGATEdHOSTeO
  a_SLOWLYhLDdRAINcSSfHAIRcLBERDeF_TREE_TRUNKnNDdEADbRTdMPdIDING_ENCLOSUREpOOKcRNbSEfICEcNCHcSECT
  gJADEcRdKNIFEfLACKcMEdEAFbTHERfEKcGSdIDbFEcNEdONGa_STRIDElMANcEATcLONeILLETeNISTERhOONcRNINGeTAR
  eUNDbTAINfTHfNETcOSEcTdOLDcNEaSELFgPEN_BOXgPOSEgPIGcLOWdOWEReRIVATEfOFOUNDiRAINcPbTcEDcICE
  cGHT_OPEN_BOXmVEReOOFdUNdSACRIFICIAL_WINEoLTcYcCHOLARfRIPTfEALcCONDeEbLFdHEEPcLLdOOT
  cRT_TAILED_BIRDkHREADlICKNESSgLKdKINdLASHcVEdICEeMALLeNOUTeOUNDePEARcECHeIRITeOONdROUTfQUAREfTAND
  dEAMcPcONEcPaPINGhUNcWEETfTABLEdLLcNNED_LEATHERnENcIGERdLEdONGUEeOTHeRACKdEEcIPODfURBANdTLEfWO
  a_HANDSjUSEdVALLEYfILLAGEhWALKa_ENCLOSUREmTEReEAPONeSTdHEATdITEeINDbEdOMANdRKdRAPcONGfYELLOW
  sNADA_AI_LENGTH_MARKoDIGIT_EIGHTfFIVEdOUReNINEeONEdSEVENeIXdTHREEeWOdZEROkLENGTH_MARKjTTER_AaAbI
  bUcBAbHAdCAbHAdDAbDAbHAdHAdEaEcFAcGAbHAdHAcIaIcJAbHAdKAbHAdLAbLAbLAeMAcNAaKAARA_POLLUmGAcNAcYAdO
  aOcPAbHAdRAbRAdSAbHAcSAdTAbHAcTAbHAeUaUcVAbOCALIC_LaLcRaRkYAjSIGN_ANUSVARAhVAGRAHAiCANDRABINDU
  lJIHVAMULIYAlNUKTAfSIDDHAMgPACING_CANDRABINDUtUPADHMANIYAlVIRAMAeSARGAmVOWEL_SIGN_AAbIbUcEaEcIaI
  cOaOcUaUcVOCALIC_LaLcRaRzcTAKANA_DIGRAPH_KOTOmITERATION_MARKoLETTER_AaRCHAIC_EbWUcYEbIkBAbEbIbObU
  cDAbEbIbObUcEbGAbEbIbObUcHAbEbIbObUcIbKAbEbIbObUcMAbEbIaNNAN_NASALIZED_TONE-1b2b3b4b5b7b8qTONE-2
  b3b4b5b7b8mObUcNaAbEbIbObUcObPAbEbIbObUcRAbEbIbObUcSAbEbIbMALL_AbEbHAbEbIbObUcIbKAbEbUcMUcNaUcO
  bRAbEbIbObUcSIbUcTObUcUbWAbEbIbOcYAbObUhObUcTAbEbIbObUcUbVAbEbIbObUcWAbEbIbOcYAbObUcZAbEbIbObU
  jMIDDLE_DOTkVOICED_ITERATION_MARKw-HIRAGANA_DOUBLE_HYPHENnPROLONGED_SOUND_MARK
  uSEMI-VOICED_SOUND_MARKwVOICED_SOUND_MARKziYAH_LI_DIGIT_EIGHTfFIVEdOUReNINEeONEdSEVENeIXdTHREEeWO
  dZEROkLETTER_AbBAcCAcDAcGAcHAbTAdIbKAbHAdLAcMAcNAbGAcYAdOEbOcPAbHAdRAcSAbHAdTAbHAdVAcWAcYAcZA
  jSIGN_CWIdSHYAjTONE_CALYAa_PLOPHUmPLOPHUlVOWEL_EaEcObUaEqELVIN_SIGNjYaBOARDa_AND_MOUSEpCAP_TEN
  jHAROSHTHI_DIGIT_FOUReONEdTHREEeWOjFRACTION_ONE_HALFrLETTER_AbBAbHAdCAbHAdDAbDAbHAdHAdGAbHAdHAcJA
  cKAbHAcKAdLAcMAcNAbNAcYAdPAbHAdRAcSAbHAcSAdTAbHAcTAbHAcTAbHAfVAbHAdYAcZAjNUMBER_ONE_HUNDRED
  hTHOUSANDmTENcWENTYnPUNCTUATION_CIRCLEfRESCENT_BARmDANDAeOTbUBLE_DANDAmLINESeOTUSfMANGALAM
  iSMALL_CIRCLEySIGN_ANUSVARAiBAR_ABOVEjCAUDAfDOT_BELOWhUBLE_RING_BELOWrVISARGAmVIRAMA
  fOWEL_LENGTH_MARKlSIGN_EbIbObUbVOCALIC_RzeITAN_SMALL_SCRIPT_CHARACTER-18B00b1b2b3b4b5b6b7b8b9bAbB
  bCbDbEbFc10b1b2b3b4b5b6b7b8b9bAbBbCbDbEbFc20b1b2b3b4b5b6b7b8b9bAbBbCbDbEbFc30b1b2b3b4b5b6b7b8b9bA
  bBbCbDbEbFc40b1b2b3b4b5b6b7b8b9bAbBbCbDbEbFc50b1b2b3b4b5b6b7b8b9bAbBbCbDbEbFc60b1b2b3b4b5b6b7b8b9
  bAbBbCbDbEbFc70b1b2b3b4b5b6b7b8b9bAbBbCbDbEbFc80b1b2b3b4b5b6b7b8b9bAbBbCbDbEbFc90b1b2b3b4b5b6b7b8
  b9bAbBbCbDbEbFcA0b1b2b3b4b5b6b7b8b9bAbBbCbDbEbFcB0b1b2b3b4b5b6b7b8b9bAbBbCbDbEbFcC0b1b2b3b4b5b6b7
  b8b9bAbBbCbDbEbFcD0b1b2b3b4b5b6b7b8b9bAbBbCbDbEbFcE0b1b2b3b4b5b6b7b8b9bAbBbCbDbEbFcF0b1b2b3b4b5b6
  b7b8b9bAbBbCbDbEbFdC00b1b2b3b4b5b6b7b8b9bAbBbCbDbEbFc10b1b2b3b4b5b6b7b8b9bAbBbCbDbEbFc20b1b2b3b4
  b5b6b7b8b9bAbBbCbDbEbFc30b1b2b3b4b5b6b7b8b9bAbBbCbDbEbFc40b1b2b3b4b5b6b7b8b9bAbBbCbDbEbFc50b1b2b3
  b4b5b6b7b8b9bAbBbCbDbEbFc60b1b2b3b4b5b6b7b8b9bAbBbCbDbEbFc70b1b2b3b4b5b6b7b8b9bAbBbCbDbEbFc80b1b2
  b3b4b5b6b7b8b9bAbBbCbDbEbFc90b1b2b3b4b5b6b7b8b9bAbBbCbDbEbFcA0b1b2b3b4b5b6b7b8b9bAbBbCbDbEbFcB0b1
  b2b3b4b5b6b7b8b9bAbBbCbDbEbFcC0b1b2b3b4b5b6b7b8b9bAbBbCbDbEbFcD0b1b2b3b4b5pFILLER
  yMER_CURRENCY_SYMBOL_RIELuDIGIT_EIGHTfFIVEdOUReNINEeONEdSEVENeIXdTHREEeWOdZERO
  kINDEPENDENT_VOWEL_LYaYdQAAbIbQbUcEbIaIcOO_TYPE_ONEdTWOlUaKbUaVeRYaYvLETTER_BAcCAbHAbOcOcDAbOcHA
  cKAbHAbOcOcLAbOcMOcNGOcNOcObYOdPHAbOcOcQAcROcSAbHAcSOdTAbHAbOcObTHAbOeVOcYOjSIGN_AHSDAeTTHACAN
  hVAKRAHASANYAnBANTOCeRIYOOSANiTHAMASATjEYYALgCAMNUC_PII_KUUHoOENGfKAKABATgHANdOOMUUThLEK_TOO
  hMUUSIKATOANlNIKAHIThPHNAEK_MUANlREAHMUKgOBATfSAMYOK_SANNYAnTOANDAKHIATkRIISAPhVIRIAM
  gYUUKALEAPINTUrYMBOL_BEI_KOETeROCgUON_KOETeROCiDAP_KOETeROCe-BEI_KOETeROCgUON_KOETeROCiMUOY_KOET
  eROCiPII_KOETeROCgRAM_KOETeROCmLEK_ATTAK_BEIcUONeMUOYePIIcRAMa-BEIcUONeMUOYePIIiSONnMUOY_KOETeROC
  iPATHAMASATjII_KOETeROCgRAM_KOETeROCe-BEI_KOETeROCgUON_KOETeROCiMUOY_KOETeROCiPII_KOETeROC
  mTUTEYASATqVOWEL_INHERENT_AAbQlSIGN_AAbEbIbUcEbIaEbIcOEbOcUaAbUcYaAbYrOJKI_ABBREVIATION_SIGN
  rDANDAeOUBLE_DANDAfSECTION_MARKtLETTER_AaAbIbUcBAbBAcHAdCAbHAdDAbDAbDAcHAdHAdEbGAbGAcHAdHAcIbJA
  bJAdKAbHAdLAbLAdMAcNAbGAcNAcYAdObPAbHAdRAcSAcTAbHAcTAbHAeUbVAcYAjSECTION_MARKlIGN_ANUSVARAiNUKTA
  fSHADDAfUKUNfVIRAMAlVOWEL_SIGN_AAbIbUcEbIaIcObUmWORD_SEPARATORtUDAWADI_DIGIT_EIGHTfFIVEdOUReNINE
  eONEdSEVENeIXdTHREEeWOdZEROkLETTER_AaAbIbUcBAbBAcHAdCAbHAdDAbDAbDAcHAdHAdEbGAbGAcHAdHAcIaIcJAbHA
  cJAdKAbHAdLAcMAcNAbGAcNAcYAdObPAbHAdRAbRAdSAbHAdTAbHAcTAbHAeUaUcVAcYAjSIGN_ANUSVARAiNUKTAfVIRAMA
  lVOWEL_SIGN_AAbIbUcEbIaIcObUaUwIMONOeP_SIGNgSSa_MARKfING_CAT_FACE_WITH_CLOSED_EYESzFACE
  a_WITH_CLOSED_EYESlSMILING_EYESzdTEcWIFRUITiNEELING_PERSONnOTdOALAdREAN_STANDARD_SYMBOLvRONOS
  gL_B_BAR_SYMBOLnAB_COATfELdCROSSE_STICK_AND_BALLvDDERdY_BEETLEjNGUAGE_TAGkO_CANCELLATION_MARK
  rDIGIT_EIGHTfFIVEdOUReNINEeONEdSEVENeIXdTHREEeWOdZEROkELLIPSISiHO_MOcNOfKO_LAfLETTER_BOcCOcDO
  cFO_FAYcONdSUNGeTAMgHO_SUNGeTAMgKHMU_GOcNYOgO_SUNGeTAMgOcLOa_LINGdOOThMOcNGOcObYOdObPALI_BHAdCHA
  dDDAbHAdHAdGHAdJHAdLLAdNNAcYAdTTAbHAiHO_SUNGeTAMgOcROcSANSKRIT_SHAcSAlO_SUNGeTAMgTHO_SUNGeTAMgO
  cWOcYOjNIGGAHITAjSEMIVOWEL_SIGN_LOcNYOrIGN_PALI_VIRAMAqTONE_MAI_CATAWAgEKcTHOcIlVOWEL_SIGN_AaAbI
  bMbYcEaIcIaIcMAI_KANcONhObUaUcYaYpRGE_BLUE_CIRCLEgDIAMONDhSQUAREkROWN_CIRCLEgSQUAREmCIRCLE
  gDOWN_TACKjGREEN_CIRCLEgSQUAREmLEFT_TRIANGLE_OPERATORwONE_DOT_OVER_TWO_DOTS_PUNCTUATION
  zeRING_OVER_TWO_RINGS_PUNCTUATIONzjRANGE_CIRCLEgDIAMONDhSQUAREnPURPLE_CIRCLEgSQUAREnRED_CIRCLE
  gSQUAREkTRIPLE_VERTICAL_BAR_OPERATORzcWO_DOTS_OVER_ONE_DOT_PUNCTUATION
  zeRINGS_OVER_ONE_RING_PUNCTUATIONzkUP_TACKhYELLOW_CIRCLEgSQUAREoR_THANa_OR_EQUAL_TOuI_SIGN
  hST_QUARTER_MOONa_SYMBOLgWITH_FACEzTIN_CAPITAL_LETTER_Aa_WITH_ACUTEfBREVEa_AND_ACUTEfDOT_BELOW
  jGRAVEfHOOK_ABOVEkTILDEpCARONeIRCUMFLEXa_AND_ACUTEfDOT_BELOWjGRAVEfHOOK_ABOVEkTILDEuDIAERESIS
  a_AND_MACRONtOT_ABOVEa_AND_MACRONqBELOWhUBLE_GRAVEmGRAVEfHOOK_ABOVEkINVERTED_BREVEoMACRONgOGONEK
  gRING_ABOVEa_AND_ACUTEpBELOWkSTROKEgTILDElAbEa_WITH_ACUTEfMACRONnFRICAN_DiLPHAeNGLICANA_WkObUbV
  a_WITH_HORIZONTAL_BARvYcBa_WITH_DOT_ABOVEfBELOWjFLOURISHiHOOKeLINE_BELOWkSTROKEgTOPBARmETA
  dROKEN_LiCa_WITH_ACUTEfBARdCARONeEDILLAa_AND_ACUTEqIRCUMFLEXkDOT_ABOVEjHOOKePALATAL_HOOKmSTROKE
  mHIcLOSED_INSULAR_GpONcUATRILLOa_WITH_COMMAuDa_WITH_CARONeEDILLAgIRCUMFLEX_BELOWqDOT_ABOVEfBELOW
  jHOOKeLINE_BELOWkSHORT_STROKE_OVERLAYtMALL_LETTER_Za_WITH_CARONyTROKEgTOPBARmZa_WITH_CARONnE
  a_WITH_ACUTEfBREVEfCARONeEDILLAa_AND_BREVEqIRCUMFLEXa_AND_ACUTEfDOT_BELOWjGRAVEfHOOK_ABOVEkTILDE
  jBELOWqDIAERESISiOT_ABOVEfBELOWhUBLE_GRAVEmGRAVEfHOOK_ABOVEkINVERTED_BREVEoMACRONa_AND_ACUTE
  fGRAVEqOGONEKgSTROKEgTILDEa_BELOWrGYPTOLOGICAL_AINcLEFrNGcSHcTaHcZHa_REVERSEDiWITH_CARONoF
  a_WITH_DOT_ABOVEjHOOKeSTROKEnGa_WITH_ACUTEfBREVEfCARONeEDILLAgIRCUMFLEXkDOT_ABOVEjHOOKeMACRON
  gOBLIQUE_STROKEoSTROKEmAMMAeHAcLOTTAL_AbIbSTOPeUjHa_WITH_BREVE_BELOWlCARONeEDILLAgIRCUMFLEX
  kDESCENDERiIAERESISiOT_ABOVEfBELOWjHOOKeSTROKEmALF_HfENGdWAIRfIa_WITH_ACUTEfBREVEfCARONeIRCUMFLEX
  kDIAERESISa_AND_ACUTEsOT_ABOVEfBELOWhUBLE_GRAVEmGRAVEfHOOK_ABOVEkINVERTED_BREVEoMACRONgOGONEK
  gSTROKEgTILDEa_BELOWrNSULAR_DbFbGbRbSbTiOTAdScJa_WITH_CIRCUMFLEXjROSSED-TAILmSTROKEnKa_WITH_ACUTE
  fCARONeEDILLAhDESCENDERiIAGONAL_STROKEoOT_BELOWjHOOKeLINE_BELOWkOBLIQUE_STROKEoSTROKE
  a_AND_DIAGONAL_STROKEziLa_WITH_ACUTEfBARcELTeCARONeEDILLAgIRCUMFLEX_BELOWqDOT_BELOWa_AND_MACRON
  sUBLE_BARkHIGH_STROKElLINE_BELOWkMIDDLE_DOTdTILDEmSMALL_LETTER_JnTROKEmJcMa_WITH_ACUTEfDOT_ABOVE
  fBELOWjHOOKkIDDLE_SCOTS_Si-WELSH_LLcVoNa_WITH_ACUTEfCARONeEDILLAgIRCUMFLEX_BELOWqDESCENDER
  iOT_ABOVEfBELOWjGRAVEfLEFT_HOOKiINE_BELOWjONG_RIGHT_LEGoOBLIQUE_STROKEoSMALL_LETTER_JoTILDElJcO
  a_WITH_ACUTEfBREVEfCARONeIRCUMFLEXa_AND_ACUTEfDOT_BELOWjGRAVEfHOOK_ABOVEkTILDEuDIAERESIS
  a_AND_MACRONtOT_ABOVEa_AND_MACRONqBELOWhUBLE_ACUTEfGRAVEmGRAVEfHOOK_ABOVEiRNa_AND_ACUTEfDOT_BELOW
  jGRAVEfHOOK_ABOVEkTILDEoINVERTED_BREVEoLONG_STROKE_OVERLAYrOPeMACRONa_AND_ACUTEfGRAVEpIDDLE_TILDE
  mOGONEKa_AND_MACRONrSTROKEa_AND_ACUTEqTILDEa_AND_ACUTEfDIAERESISjMACRONwIbLD_POLISH_OlMEGAeO
  bPEN_EbOfUcPa_WITH_ACUTEfDOT_ABOVEjFLOURISHiHOOKeSQUIRREL_TAILmTROKEa_THROUGH_DESCENDERzgQ
  a_WITH_DIAGONAL_STROKEpSTROKE_THROUGH_DESCENDERzgRa_ROTUNDAhWITH_ACUTEfCARONeEDILLAhDOT_ABOVE
  fBELOWa_AND_MACRONsUBLE_GRAVEmINVERTED_BREVEoLINE_BELOWkOBLIQUE_STROKEoSTROKEgTAIL
  kEVERSED_C_WITH_DOTkEbHALF_HgOPEN_EoUM_ROTUNDAlSa_WITH_ACUTEa_AND_DOT_ABOVEtCARONa_AND_DOT_ABOVE
  sEDILLAgIRCUMFLEXjOMMA_BELOWlDOT_ABOVEfBELOWa_AND_DOT_ABOVExHOOKeOBLIQUE_STROKE
  oSHORT_STROKE_OVERLAYtWASH_TAILqALTILLOhCHWAdRIPT_GhHARP_SgIGMOID_SiMALL_CAPITAL_I
  jQ_WITH_HOOK_TAILwTa_WITH_CARONeEDILLAgIRCUMFLEX_BELOWpOMMA_BELOWlDIAGONAL_STROKEoOT_ABOVEfBELOW
  jHOOKeLINE_BELOWkRETROFLEX_HOOKoSTROKEmHORNa_WITH_STROKEa_THROUGH_DESCENDERzjONE_FIVEeSIXdTWO
  hRESILLOhURNED_AaLPHAfHbINSULAR_GjKbLbMbTbVhZcUa_BARdWITH_ACUTEfBREVEfCARONeIRCUMFLEXa_BELOW
  qDIAERESISa_AND_ACUTEfCARONfGRAVEfMACRONkBELOWoOT_BELOWhUBLE_ACUTEfGRAVEmGRAVEfHOOK_ABOVEiRN
  a_AND_ACUTEfDOT_BELOWjGRAVEfHOOK_ABOVEkTILDEoINVERTED_BREVEoMACRONa_AND_DIAERESISuOGONEK
  gRING_ABOVEkSTROKEgTILDEa_AND_ACUTEjBELOWrPSILONhVa_WITH_DIAGONAL_STROKEoOT_BELOWjHOOKeTILDElEND
  dISIGOTHIC_ZlOLAPUK_AEcOEcUEjYcWa_WITH_ACUTEfCIRCUMFLEXkDIAERESISiOT_ABOVEfBELOWjGRAVEfHOOKkYNNeX
  a_WITH_DIAERESISiOT_ABOVEqYa_WITH_ACUTEfCIRCUMFLEXkDIAERESISiOT_ABOVEfBELOWjGRAVEfHOOKa_ABOVE
  kLOOPeMACRONgSTROKEgTILDElOGHeZa_WITH_ACUTEfCARONeIRCUMFLEXkDESCENDERiOT_ABOVEfBELOWjHOOK
  eLINE_BELOWkPALATAL_HOOKmSTROKEfWASH_TAILxIGATURE_IJcOEsROSSfEPIGRAPHIC_LETTER_ARCHAIC_MjI_LONGA
  gNVERTED_MkREVERSED_FbPkSIDEWAYS_IzdLETTER_AINcLVEOLAR_CLICKoBIDENTAL_PERCUSSIVErLABIAL_CLICK
  fPERCUSSIVEtDENTAL_CLICKmGLOTTAL_STOPa_WITH_STROKEyINVERTED_GLOTTAL_STOPa_WITH_CURLeSTROKE
  ziLATERAL_CLICKnPHARYNGEAL_VOICED_FRICATIVEzcRETROFLEX_CLICKa_WITH_RETROFLEX_HOOK
  ziVERSED_ESH_LOOPiGLOTTAL_STOP_WITH_STROKEziSINOLOGICAL_DOToMALL_CAPITAL_AaEcBaARRED_BiCbDbEaTH
  cZHdFbGa_WITH_HOOKlHbIaNVERTED_RkJbKbLa_WITH_BELTeSTROKEnMbNbOaEbPEN_OfUcPbQbRa_WITH_RIGHT_LEG
  pEVERSED_NbRjUMdSbTaURNED_EbGbKbMbRiUbVbWbYbZoTRETCHED_Ca_WITH_CURLvTWO_WITH_STROKE
  pVOICED_LARYNGEAL_SPIRANTyWYNNeYRjSMALL_CAPITAL_LETTER_I_WITH_STROKEnU_WITH_STROKEzdLETTER_A
  a_REVERSED-SCHWAoWITH_ACUTEfBREVEa_AND_ACUTEfDOT_BELOWjGRAVEfHOOK_ABOVEkTILDEpCARONeIRCUMFLEX
  a_AND_ACUTEfDOT_BELOWjGRAVEfHOOK_ABOVEkTILDEuDIAERESISa_AND_MACRONtOT_ABOVEa_AND_MACRONqBELOW
  hUBLE_GRAVEmGRAVEfHOOK_ABOVEkINVERTED_BREVEoMACRONgOGONEKgRETROFLEX_HOOKnIGHT_HALF_RINGnNG_ABOVE
  a_AND_ACUTEpBELOWkSTROKEgTILDElAbEa_WITH_ACUTEfMACRONnLPHAa_WITH_RETROFLEX_HOOKyNGLICANA_WkObUbV
  a_WITH_HORIZONTAL_BARvYcBa_WITH_DOT_ABOVEfBELOWjFLOURISHiHOOKeLINE_BELOWkMIDDLE_TILDE
  mPALATAL_HOOKmSTROKEgTOPBARmARRED_ALPHAfEbOgSELINE_ESHlETAdLACKLETTER_EbOa_WITH_STROKE
  yOTTOM_HALF_OmROKEN_LiCa_WITH_ACUTEfBARdCARONeEDILLAa_AND_ACUTEqIRCUMFLEXjURLeDOT_ABOVEjHOOK
  ePALATAL_HOOKmRETROFLEX_HOOKoSTROKEmHIa_WITH_LOW_LEFT_SERIFkRIGHT_RINGwLOSED_INSULAR_GjOMEGA
  ePEN_EgREVERSED_OPEN_EvONcUATRILLOa_WITH_COMMAuDa_WITH_CARONeEDILLAgIRCUMFLEX_BELOWpURLeDOT_ABOVE
  fBELOWjHOOKa_AND_TAILnLINE_BELOWkMIDDLE_TILDEmPALATAL_HOOKmSHORT_STROKE_OVERLAYtTROKEgTAILdOPBAR
  mB_DIGRAPHjELTAdZH_DIGRAPHa_WITH_PALATAL_HOOKmRETROFLEX_HOOKzgOTLESS_IbJa_WITH_STROKEa_AND_HOOK
  zdUBLE_Ra_WITH_CROSSED-TAILtTHORNfWYNNkUMcZa_DIGRAPHa_WITH_CURLeRETROFLEX_HOOKzcWITH_CARONnE
  a_WITH_ACUTEfBREVEfCARONeEDILLAa_AND_BREVEqIRCUMFLEXa_AND_ACUTEfDOT_BELOWjGRAVEfHOOK_ABOVEkTILDE
  jBELOWqDIAERESISiOT_ABOVEfBELOWhUBLE_GRAVEmFLOURISHiGRAVEfHOOK_ABOVEkINVERTED_BREVEoMACRON
  a_AND_ACUTEfGRAVEqNOTCHfOGONEKgRETROFLEX_HOOKoSTROKEgTILDEa_BELOWrGYPTOLOGICAL_AINcLEFrNG
  a_WITH_CROSSED-TAILmPALATAL_HOOKuSHa_WITH_CURLeDOUBLE_BARa_AND_CURLtPALATAL_HOOKmRETROFLEX_HOOKwT
  aHcZHa_REVERSEDiWITH_CARONeURLePALATAL_HOOKmRETROFLEX_HOOKoTAILnFa_WITH_DOT_ABOVEjHOOK
  eMIDDLE_TILDEmPALATAL_HOOKmSTROKEmENG_DIGRAPHa_WITH_TRILLxGa_WITH_ACUTEfBREVEfCARONeEDILLA
  gIRCUMFLEXkDOT_ABOVEjHOOKeMACRONgOBLIQUE_STROKEoPALATAL_HOOKmSTROKEmAMMAeHAcLOTTAL_AbIbSTOPeUjH
  a_WITH_BREVE_BELOWlCARONeEDILLAgIRCUMFLEXkDESCENDERiIAERESISiOT_ABOVEfBELOWjHOOKeLINE_BELOW
  kPALATAL_HOOKmSTROKEmALF_HfENGa_WITH_HOOKnVcIa_WITH_ACUTEfBREVEfCARONeIRCUMFLEXkDIAERESIS
  a_AND_ACUTEsOT_BELOWhUBLE_GRAVEmGRAVEfHOOK_ABOVEkINVERTED_BREVEoMACRONgOGONEKgRETROFLEX_HOOK
  oSTROKEa_AND_RETROFLEX_HOOKzTILDEa_BELOWrNSULAR_DbFbGbRbSbThVERTED_ALPHAfOEkOTAa_WITH_STROKE
  nIFIED_EjScJa_WITH_CARONeIRCUMFLEXjROSSED-TAILmSTROKEnKa_WITH_ACUTEfCARONeEDILLAhDESCENDER
  iIAGONAL_STROKEoOT_BELOWjHOOKeLINE_BELOWkOBLIQUE_STROKEoPALATAL_HOOKmSTROKEa_AND_DIAGONAL_STROKE
  zhRAdLa_WITH_ACUTEfBARcELTa_AND_PALATAL_HOOKvCARONeEDILLAgIRCUMFLEX_BELOWpURLeDOT_BELOW
  a_AND_MACRONsUBLE_BARdMIDDLE_TILDEtFISHHOOKiHIGH_STROKElINVERTED_LAZY_SpLINE_BELOWkMIDDLE_DOT
  dRINGeTILDEmPALATAL_HOOKmRETROFLEX_HOOKa_AND_BELTxSTROKEmAMBDA_WITH_STROKErENIS_FfZH
  a_WITH_RETROFLEX_HOOKxJbONG_Sa_WITH_DIAGONAL_STROKEoOT_ABOVEjHIGH_STROKEwS_DIGRAPHjUMcZ_DIGRAPHkM
  a_WITH_ACUTEfCROSSED-TAILmDOT_ABOVEfBELOWjHOOKeMIDDLE_TILDEmPALATAL_HOOKsIDDLE_SCOTS_Si-WELSH_LL
  cVnUMdNa_PRECEDED_BY_APOSTROPHEwWITH_ACUTEfCARONeEDILLAgIRCUMFLEX_BELOWpROSSED-TAILlURLeDESCENDER
  iOT_ABOVEfBELOWjGRAVEfLEFT_HOOKiINE_BELOWjONG_RIGHT_LEGoMIDDLE_TILDEmOBLIQUE_STROKEoPALATAL_HOOK
  mRETROFLEX_HOOKoTILDElJbUMdOa_WITH_ACUTEfBREVEfCARONeIRCUMFLEXa_AND_ACUTEfDOT_BELOWjGRAVE
  fHOOK_ABOVEkTILDEuDIAERESISa_AND_MACRONtOT_ABOVEa_AND_MACRONqBELOWhUBLE_ACUTEfGRAVEmGRAVE
  fHOOK_ABOVEiRNa_AND_ACUTEfDOT_BELOWjGRAVEfHOOK_ABOVEkTILDEoINVERTED_BREVEoLONG_STROKE_OVERLAYrOP
  cW_RING_INSIDEpMACRONa_AND_ACUTEfGRAVEqOGONEKa_AND_MACRONrRETROFLEX_HOOKoSTROKEa_AND_ACUTEqTILDE
  a_AND_ACUTEfDIAERESISjMACRONwIbLD_POLISH_OlMEGAeObPEN_Ea_WITH_RETROFLEX_HOOKvO
  a_WITH_RETROFLEX_HOOKoSTROKEmEgUcPa_WITH_ACUTEfDOT_ABOVEjFLOURISHiHOOKeMIDDLE_TILDEmPALATAL_HOOK
  mSQUIRREL_TAILmTROKEa_THROUGH_DESCENDERzfHIdQa_WITH_DIAGONAL_STROKEpHOOKa_TAIL
  jSTROKE_THROUGH_DESCENDERzfP_DIGRAPHkRa_ROTUNDAhWITH_ACUTEfCARONeEDILLAgROSSED-TAILmDOT_ABOVE
  fBELOWa_AND_MACRONsUBLE_GRAVEmFISHHOOKa_AND_MIDDLE_TILDEmPALATAL_HOOKzINVERTED_BREVEoLINE_BELOW
  jONG_LEGiMIDDLE_TILDEmOBLIQUE_STROKEoPALATAL_HOOKmSTROKEgTAILfOUT_HANDLEpAMS_HORNiEVERSED_C
  a_WITH_DOTkEaNGdHALF_HgKbOPEN_Ea_WITH_HOOKeRETROFLEX_HOOKzbR_WITH_FISHHOOKpSCRIPT_GqUMa_ROTUNDAlS
  a_WITH_ACUTEa_AND_DOT_ABOVEtCARONa_AND_DOT_ABOVEsEDILLAgIRCUMFLEXjOMMA_BELOWkURLeDOT_ABOVEfBELOW
  a_AND_DOT_ABOVExHOOKeMIDDLE_TILDEmOBLIQUE_STROKEoPALATAL_HOOKmSHORT_STROKE_OVERLAYtWASH_TAIL
  qAKHA_YAThLTILLOhCHWAa_WITH_HOOKeRETROFLEX_HOOKxRIPT_Ga_WITH_CROSSED-TAILtRa_WITH_RINGrHARP_S
  gIDEWAYS_DIAERESIZED_UnOa_WITH_STROKEmPEN_OgTURNED_MiUiGMOID_SiQUAT_REVERSED_ESHrTIRRUP_RjT
  a_WITH_CARONeEDILLAgIRCUMFLEX_BELOWpOMMA_BELOWkURLeDIAERESISgGONAL_STROKEoOT_ABOVEfBELOWjHOOK
  a_AND_RETROFLEX_HOOKxLINE_BELOWkMIDDLE_TILDEmPALATAL_HOOKmRETROFLEX_HOOKoSTROKEmAILLESS_PHI
  lC_DIGRAPH_WITH_CURLtESH_DIGRAPHa_WITH_PALATAL_HOOKmRETROFLEX_HOOKzgH_WITH_STRIKETHROUGHtORN
  a_WITH_STROKEa_THROUGH_DESCENDERzjONE_FIVEeSIXdTWOgP_HALF_OjRESILLOhS_DIGRAPH
  a_WITH_RETROFLEX_HOOKzeUMbRNED_AaEbLPHAfDELTAfEbGbHa_WITH_FISHHOOKa_AND_TAILyIaNSULAR_GjKbLbM
  a_WITH_LONG_LEGpO_OPEN-Oa_WITH_STROKEtEa_WITH_HORIZONTAL_STROKErSTROKEnPEN_EgRa_WITH_HOOK
  eLONG_LEGa_AND_RETROFLEX_HOOKzcMIDDLE_TILDEmPALATAL_HOOKmTAILlTa_WITH_CURLlUIcVbWbYa_WITH_BELTrZ
  cUa_BARa_WITH_SHORT_RIGHT_LEGyWITH_ACUTEfBREVEfCARONeIRCUMFLEXa_BELOWqDIAERESISa_AND_ACUTEfCARON
  fGRAVEfMACRONkBELOWoOT_BELOWhUBLE_ACUTEfGRAVEmGRAVEfHOOK_ABOVEiRNa_AND_ACUTEfDOT_BELOWjGRAVE
  fHOOK_ABOVEkTILDEoINVERTED_BREVEoLEFT_HOOKjMACRONa_AND_DIAERESISuOGONEKgRETROFLEX_HOOKnING_ABOVE
  kSHORT_RIGHT_LEGoTROKEgTILDEa_AND_ACUTEjBELOWrEbIbMbObPSILONa_WITH_STROKEtVa_WITH_CURL
  eDIAGONAL_STROKEoOT_BELOWjHOOKePALATAL_HOOKmRIGHT_HOOKkTILDElENDdISIGOTHIC_ZlOLAPUK_AEcOEcUEjYcW
  a_WITH_ACUTEfCIRCUMFLEXkDIAERESISiOT_ABOVEfBELOWjGRAVEfHOOKeRING_ABOVErXa_WITH_DIAERESISiOT_ABOVE
  jLONG_LEFT_LEGa_AND_LOW_RIGHT_RINGsWITH_SERIFwW_RIGHT_RINGoPALATAL_HOOKtYa_WITH_ACUTEfCIRCUMFLEX
  kDIAERESISiOT_ABOVEfBELOWjGRAVEfHOOKa_ABOVEkLOOPeMACRONgRING_ABOVEkSHORT_RIGHT_LEGoTROKEgTILDE
  lOGHeZa_WITH_ACUTEfCARONeIRCUMFLEXjURLeDESCENDERiOT_ABOVEfBELOWjHOOKeLINE_BELOWkMIDDLE_TILDE
  mPALATAL_HOOKmRETROFLEX_HOOKoSTROKEfWASH_TAILxIGATURE_FFaIbLcIbLcIJcLONG_S_TiOEcST
  qUBSCRIPT_SMALL_LETTER_AbEbHbIbJbKbLbMbNbObPbRbSaCHWAfTbUbVbXzeEAF_FLUTTERING_IN_WINDtY_GREEN
  jDGEReFT_AND_LOWER_AND_RIGHT_TRIANGULAR_THREE_QUARTERS_BLOCKzqONE_EIGHTH_BLOCK
  wRIGHT_DOUBLE_TURNSTILEqTACKdRIANGULAR_HALF_BLOCK
  zcUPPER_AND_RIGHT_TRIANGULAR_THREE_QUARTERS_BLOCKzqONE_EIGHTH_BLOCKyGER_BUBBLEjLE_BRACKET
  a_WITH_DOTvRC_LESS-THAN_BRACKETtROW_WITH_CIRCLED_PLUSmSMALL_CIRCLE
  xBARB_DOWN_RIGHT_BARB_DOWN_HARPOONmUP_HARPOONzbUP_RIGHT_BARB_DOWN_HARPOONmUP_HARPOON
  zdLACK_LENTICULAR_BRACKETsTORTOISE_SHELL_BRACKETzdCEILINGgLOSED_ENTRYlORNER_BRACKETnURLY_BRACKET
  a_LOWER_HOOKkMIDDLE_PIECEmUPPER_HOOKyDOTTED_SUBSTITUTION_BRACKETzUBLE_ANGLE_BRACKETnPARENTHESIS
  lQUOTATION_MARKoWIGGLY_FENCEtFISH_TAILhVE_EIGHTHS_BLOCKrLOORfHALF_BLACK_CIRCLEgSTARiOCKfCIRCLE
  a_WITH_DOTdFOUR_DOTSjTHREE_DOTSjWO_DOTSuFOLDERgINVERSE_MEDIUM_SHADE_AND_RIGHT_HALF_BLOCK
  zqMEDIUM_SHADEmRUNNING_MANoND_TELEPHONE_RECEIVERxLOW_PARAPHRASE_BRACKETvUGGAGEhMULTIMAP
  iNORMAL_FACTOR_SEMIDIRECT_PRODUCTzhONE_EIGHTH_BLOCKmQUARTER_BLOCKqUTER_JOINkPARENTHESIS
  a_EXTENSIONjLOWER_HOOKkUPPER_HOOKwRAISED_OMISSION_BRACKETwIGHT_ARROWa_THROUGH_SMALL_CIRCLE
  uWITH_DOUBLE_VERTICAL_STROKEwSTROKEgVERTICAL_STROKEzbBLACK_ARROWlDOUBLE_ARROWa_WITH_STROKE
  gVERTICAL_STROKEziOPEN-HEADED_ARROWrSANS-SERIF_ARROWqTRIANGLE-HEADED_ARROWvWAVE_ARROWjHITE_ARROW
  rS-SHAPED_BAG_DELIMITERvEMIDIRECT_PRODUCTqVEN_EIGHTHS_BLOCKsIDEWAYS_U_BRACKETqNGLE_QUOTATION_MARK
  uPEECH_BUBBLEmQUARE_BRACKETa_EXTENSIONjLOWER_CORNERmUPPER_CORNERmWITH_DOUBLE_STROKEnQUILLfSTROKE
  gTICK_IN_BOTTOM_CORNERnTOP_CORNERsUNDERBARzcUBSTITUTION_BRACKETuTACK
  dHIRD_WHITE_RIGHT_POINTING_INDEXzfOUGHT_BUBBLEmREE_EIGHTHS_BLOCKnQUARTERS_BLOCK
  tORTOISE_SHELL_BRACKETvRANSPOSITION_BRACKETtIANGLE_BESIDE_VERTICAL_BARwULAR_ONE_QUARTER_BLOCK
  zdVERTICAL_BAR_WITH_QUILLnOX_LINErWHITE_CORNER_BRACKETnURLY_BRACKETnLENTICULAR_BRACKET
  sPARENTHESISlSQUARE_BRACKEToTORTOISE_SHELL_BRACKETzcIGGLY_FENCElRITING_HAND
  n-FACING_ARMENIAN_ETERNITY_SIGNwFISTeSVASTI_SIGNa_WITH_DOTSzdHANDED_INTERLACED_PENTAGRAM
  zcPOINTING_ANGLE_BRACKETnCURVED_ANGLE_BRACKETuDOUBLE_ANGLE_QUOTATION_MARKzcMAGNIFYING_GLASS
  zSHADED_WHITE_RIGHTWARDS_ARROWzdIDE_ARC_ANTICLOCKWISE_ARROWzdTO-RIGHT_EMBEDDINGjISOLATEhMARK
  eOVERRIDEsWARDS_ARROWa_ABOVE_ALMOST_EQUAL_TOpREVERSE_ALMOST_EQUAL_TOpTILDE_OPERATOR
  wSHORT_RIGHTWARDS_ARROWwTILDE_OPERATORtND_UPPER_AND_LOWER_ONE_EIGHTH_BLOCKzlFROM_BAR
  a_TO_BLACK_DIAMONDzOVER_RIGHTWARDS_ARROWvTHROUGH_LESS-THANjSUBSETgXiO_BAR
  a_OVER_RIGHTWARDS_ARROW_TO_BARzgLACK_DIAMONDqWITH_DOTTED_STEMjUBLE_VERTICAL_STROKE
  wEQUILATERAL_ARROWHEADvHOOKeLARGE_TRIANGLE_ARROWHEADxOOPeMEDIUM_TRIANGLE_ARROWHEADzNOTCHED_TAIL
  mPLUS_BELOWkSMALL_EQUILATERAL_ARROWHEADvTRIANGLE_ARROWHEADxTROKEgTAIL
  a_WITH_DOUBLE_VERTICAL_STROKEwVERTICAL_STROKEyIP_DOWNWARDSjUPWARDSlVERTICAL_STROKEv-TAIL
  kBACK-TILTED_SHADOWED_WHITE_ARROWzgLACK_ARROWfCIRCLED_WHITE_ARROWyOTTOM-SHADED_WHITE_ARROW
  zCOMPRESSED_ARROWqDASHED_ARROWlOUBLE_ARROWa_FROM_BARiWITH_STROKEgVERTICAL_STROKEv-TAILkDASH_ARROW
  rFINGER-POST_ARROWqRONT-TILTED_SHADOWED_WHITE_ARROWziHANDcRPOON_OVER_RIGHTWARDS_HARPOON
  xWITH_BARB_DOWN_ABOVE_RIGHTWARDS_HARPOON_WITH_BARB_DOWNzoBELOW_LONG_DASHpFROM_BARiTO_BARhWARDS
  jUP_ABOVE_LEFTWARDS_HARPOON_WITH_BARB_DOWNzgONG_DASHjRIGHTWARDS_HARPOON_WITH_BARB_UPzmFROM_BAR
  iTO_BARhWARDSyEAVY_ARROWfCOMPRESSED_ARROWwLEFT-SHADED_WHITE_ARROWxOPEN-HEADED_ARROWrPAIRED_ARROWS
  nQUADRUPLE_ARROWpRIGHT-SHADED_WHITE_ARROWxOCKETgSANS-SERIF_ARROWpQUARED_ARROWkIGGLE_ARROW
  oTOP_SHADED_WHITE_ARROWvRIANGLE_ARROWHEADk-HEADED_ARROWa_OVER_RIGHTWARDS_TRIANGLE-HEADED_ARROW
  zmTO_BARgWITH_BOLD_SHAFTkDOUBLE_HORIZONTAL_STROKErVERTICAL_STROKEwHEAVY_SHAFTlLONG_TIP_DOWNWARDS
  jUPWARDSqMEDIUM_SHAFTmNARROW_SHAFTmVERY_HEAVY_SHAFTzcDASHED_ARROWmPAIRED_ARROWSzbPLE_ARROW
  fDASH_ARROWqWO_HEADED_ARROWn-HEADED_ARROW_FROM_BARiWITH_DOUBLE_VERTICAL_STROKEwTAIL
  a_WITH_DOUBLE_VERTICAL_STROKEwVERTICAL_STROKEyRIANGLE_ARROWHEADStVERTICAL_STROKE
  zbTRIPLE_DASH_ARROWzdWAVE_ARROWjHITE_ARROWa_WITHIN_TRIANGLE_ARROWHEADzuGbMONdOaPARD
  fPCHA_CONSONANT_SIGN_KaANGeLbMbNaYIN-DOhPbRbTqDIGIT_EIGHTfFIVEdOUReNINEeONEdSEVENeIXdTHREEeWO
  dZEROkLETTER_AbBAbLAdCAbHAdDAbDAcZAdFAbLAdGAbLAdHAbLAdJAcKAbHAcLAdLAcMAbLAdNAbGAcYAdPAbHAcLAdRA
  cSAbHAdTAbHAcSAbHAdTAbHAeVAcWAcYAjPUNCTUATION_CER-WAgNYET_THYOOM_TA-ROLsTA-ROLfSHOOKa_CER-WA
  zSIGN_NUKTAfRANhUBJOINED_LETTER_RAcYAtVOWEL_SIGN_AAcEbIbOaOcUaU
  sSS-THAN_ABOVE_DOUBLE-LINE_EQUAL_ABOVE_GREATER-THANzlGREATER-THAN_ABOVE_DOUBLE-LINE_EQUAL
  zlLEFTWARDS_ARROWpSIMILAR_ABOVE_GREATER-THANsOR_EQUAL
  pLANTED_EQUAL_ABOVE_GREATER-THAN_ABOVE_SLANTED_EQUALzzhND_NOT_APPROXIMATE
  pSINGLE-LINE_NOT_EQUAL_TOzdBUT_NOT_EQUAL_TOfIVALENT_TOvCLOSED_BY_CURVEa_ABOVE_SLANTED_EQUAL
  zkEQUAL_TO_OR_GREATER-THANyOR_APPROXIMATElEQUAL_TOfIVALENT_TOnGREATER-THANmSLANTED_EQUAL_TO
  a_WITH_DOT_ABOVEa_RIGHTlINSIDEzjVER_EQUAL_TOnSIGNeWITH_CIRCLE_INSIDEnDOTdQUESTION_MARK_ABOVE
  zhVEL_SLIDERlFbIBRAdGATURE_OPEN_ET_ORNAMENTwHT_CHECK_MARKkEIGHT_SPOKED_ASTERISK
  vFIVE_POINTED_BLACK_STARsSPOKED_ASTERISKtOUR_POINTED_BLACK_CUSPeSTARxGREEK_CROSS
  lLEFT_TORTOISE_SHELL_BRACKET_ORNAMENTzlRAILdIGHT_TORTOISE_SHELL_BRACKET_ORNAMENTzmSALTIREgHADE
  eIX_SPOKED_ASTERISKtTHREE_POINTED_BLACK_STARxWELVE_POINTED_BLACK_STARzVERTICAL_BARmWHITE_SQUARE
  nNINGa_MOODa_BUBBLEtMBU_DIGIT_EIGHTfFIVEdOUReNINEeONEdSEVENeIXdTHREEeWOdZEROkEXCLAMATION_MARK
  qLETTER_BAbHAdCAbHAdDAbHAdGAbHAcYANeHAcJAbHAdKAbHAdLAcMAcNAbGAdPAbHAdRAcSAbHAcSAdTAbHAcRAdWAcYAaN
  kQUESTION_MARKnSIGN_KEMPHRENGjLOOdMUKPHRENGjSA-IiMALL_LETTER_ANUSVARAiKAcLAcMAcNAbGAdPAcRAcTA
  oUBJOINED_LETTER_RAcWAcYAtVOWEL_SIGN_AaIbUcEaEcIbOaOcUh-CARRIER_LETTERxITED_LIABILITY_SIGN
  uNE_FEEDeINTEGRATION_NOT_INCLUDING_THE_POLEwWITH_RECTANGULAR_PATH_AROUND_POLE
  zdSEMICIRCULAR_PATH_AROUND_POLEzvSEPARATORjTABULATIONa_SETpAR_A_SIGN_A028Be100-102g20Bd31Ce301b2
  b3b4b5b6b7b8b9AbBbCd10b1b2b3AbBbCc4b5b6b7b8b9c20b1b2b3b4b5b6b7b8b9c30b1b2b3b4b5b6b7b8b9c40b1b2b3
  b4b5b6b7b8b9c50b1b2b3b4b5b6b7b8b9c60b1b2b3b4b5b6b7b8b9c70b1d400-VASf1-VASf2-VASf3-VASf4-VASf5-VAS
  f6-VASf7-VASf8-VASf9-VASg10-VASf1-VASf2-VASf3-VASf4-VASf5-VASf6-VASf7-VASf8-VASh501b2b3b4b5b6b8b9
  c10b1b2b3b5b6c20b1b3b4b5b6b7b8b9c30b1b2b4b5b6b7b8b9c40b1b2b5b7b8b9c50b1b2b3b4b5b6b7b9c63b4b5b6b8
  b9c70b1b2b3b4b5b6b7b8b9c80b1b2b3b4b5b6b7b8b9c91b2b4b5b6b8d600b1b2b3b4b6b8b9c10b1b2b3b4b5b6b7b8b9
  c20b1b2b3b4b6b7b8b9c34b7b8c40b2b3b4b5b6b8b9c51b2b3b4b5b6b7b8b9c60b1b2b3b4d701_Ad2_Bd3_Dd4_Ed5_F
  d6_Hd7_Jd8_Kd9_Lc-2_L2e3_L3e4_L4e6_L6h10_Wd1_Xd2_Yd3_OMEGAh4_ABBf5_BBe7_DDf26_EYYYh32_JEg800b1b2
  b3b4b5b6b7dB001b2b3b4b5b6b7b8b9c10b1b3b6b7c20b1aFbMc2aFbMc3aMc4b6b7b8b9c30b1b4b7b8b9c40b1b4b5b6b7
  b8b9c50b1b3b4b5b6b7b8b9c60b1b5b6b7b9c70b3b4b6b7b8b9c80b1b2b5b6b7d118c20b2b3c31AbBd64c71c80b8c91
  mB_IDEOGRAM_B100_MANf2_WOMANh4_DEERg5_EQUIDgF_MAREgM_STALLIONl6F_EWEfM_RAMg7F_SHE-GOATkM_HE-GOAT
  k8F_SOWfM_BOARh9F_COWfM_BULLi20_WHEATh1_BARLEYi2_OLIVEh3_SPICEh5_CYPERUSk30_OILf1_WINEg2
  c40_BRONZEi1_GOLDg2b5_WOOLg6c50b1_HORNg2b3b4b7b8b9_CLOTHi60b1b2_GARMENTj3_ARMOURi4b5b6b7b8b9c70b1
  b2b3_MONTHh4b6_TREEg7b8b9c80b1b2b3b4b5b9c90b1_HELMETk220_FOOTSTOOLl5_BATHTUBk30_SPEARh1_ARROWh2
  b3_SWORDh4b6c40_WHEELED_CHARIOTr1_CHARIOTj2_CHARIOT_FRAMEp3_WHEELh5b6b8b9c51b2b3b4_DARTg5b6b7b8b9
  eVESSEL_B155d200b1b2b3b4b5b6b7b8b9c10b1b2b3b4b5b6b7b8b9c21b2b6b7b8b9c50d305uMONOGRAM_B127_KAPO
  g8_KANAKOj33_AREPAh5_MERIh56_TURO2j247_DIPTEtSYLLABLE_B001_DAe2_ROe3_PAe4_TEe5_TOe6_NAe7_DIe8_A
  d9_SEf10_Ud1_POe2_SOe3_MEe4_DOe5_MOe6_QAe7_ZAf20_ZOe1_QIe3_MUe4_NEe5_A2e6_RUe7_REe8_Id9_PU2g30_NI
  e1_SAe2_QOe3_RA3f6_JOe7_TIe8_Ed9_PIf40_WIe1_SIe2_WOe3_A3e4_KEe5_DEe6_JEe8_NWAg50_PUe1_DUe2_NO
  e3_RIe4_WAe5_NUe7_JAe8_SUe9_TAf60_RAe1_Od2_PTEf5_JUe6_TA2f7_KIe8_RO2f9_TUf70_KOe1_DWEf2_PEe3_MI
  e4_ZEe5_WEe6_RA2f7_KAe8_QEf80_MAe1_KUe5_AUe7_TWEg90_DWOf1_TWOpMBOL_B018b9c22c34c47b9c56c63b4c79
  c82b3b6b9rK_SYMBOLhED_PAPERCLIPSpON_FACEhPSaTICKgRA_SIGNhSU_LETTER_AaEcBAcCAbHAdDAbZAdEaUcFAcGA
  bHAdHAbHAdIbJAcKAbHAdLAcMAcNAbGAdOaEcPAbHAdSAbHAdTAbHAcONE_MYA_BOcCYAdJEUdNAcTIgNA_POjSAbHAeUaEbH
  cWAcXAcYAbHAdZAbHAkPUNCTUATION_COMMAfFULL_STOPyVRE_TOURNOIS_SIGNrZARDfLAMAeOBSTERfCK
  a_WITH_INK_PENnING-SHIFT_ONEdZEROqGICAL_ANDa_WITH_DOT_ABOVEhUBLE_OVERBARhUNDERBARpHORIZONTAL_DASH
  pMIDDLE_STEMlUNDERBARrORa_OVERLAPPING_LOGICAL_ANDxWITH_DOT_ABOVEhUBLE_OVERBARhUNDERBAR
  pHORIZONTAL_DASHpMIDDLE_STEMzLLIPOPgNG_DASH_FROM_LEFT_MEMBER_OF_DOUBLE_VERTICALzoIVISIONhRUM
  eLEFT_RIGHT_ARROWfDOUBLE_ARROWsTACKfWARDS_ARROWa_FROM_BARoDOUBLE_ARROWa_FROM_BARvSQUIGGLE_ARROW
  yRIGHT_TACKfWARDS_ARROWa_FROM_BARoDOUBLE_ARROWa_FROM_BARvSQUIGGLE_ARROWzdTION_BOTTLEkUS
  dUDLY_CRYING_FACEqVE_HOTELfLETTERjW_ASTERISKiBATTERYgRIGHTNESS_SYMBOLrDOUBLE_PRIME_QUOTATION_MARK
  zcKAVYKAa_WITH_DOTpLINEfER_BLADE_SCISSORSoFIVE_EIGHTHS_BLOCKsHALF_BLOCKfCIRCLE
  gINVERSE_WHITE_CIRCLEuMEDIUM_SHADErLEFT_BALLPOINT_PEN
  mLOCK_DIAGONAL_LOWER_MIDDLE_LEFT_TO_LOWER_CENTREgRIGHTzhUPPER_CENTRE_TO_LOWER_MIDDLE_RIGHTmRIGHT
  lUPPER_MIDDLE_RIGHTzdLEFT_TO_LOWER_CENTREgMIDDLE_RIGHTsUPPER_MIDDLE_RIGHT
  zbMIDDLE_LEFT_TO_LOWER_CENTREgMIDDLE_RIGHTmRIGHTzwCRAYONgFOUNTAIN_PENmPAINTBRUSHjENCIL
  gQUADRANT_CIRCULAR_ARCvSEMICIRCULAR_ANTICLOCKWISE_ARROWzhTRIANGLEcULAR_MEDIUM_SHADE
  zdONE_EIGHTH_BLOCKmQUARTER_BLOCKrRIGHT_BLOCK_DIAGONAL_LOWER_CENTRE_TO_LOWER_MIDDLE_RIGHT
  sUPPER_MIDDLE_RIGHTmRIGHTvLEFT_TO_LOWER_MIDDLE_RIGHTsUPPER_CENTREgMIDDLE_RIGHT
  zbMIDDLE_LEFT_TO_UPPER_CENTREgMIDDLE_RIGHTmRIGHTzhUPPER_MIDDLE_LEFT_TO_UPPER_CENTREgRIGHT
  zwCORNER_WITH_DOTpDROP-SHADOWED_WHITE_SQUAREzbPENCILgQUADRANT_CIRCULAR_ARC
  vSEMICIRCULAR_CLOCKWISE_ARROWzcHADOWED_WHITE_CIRCLEgSQUAREvTRIANGLEcULAR_MEDIUM_SHADE
  zeSEVEN_EIGHTHS_BLOCKtTHREE_EIGHTHS_BLOCKnQUARTERS_BLOCKtRIANGULAR_ONE_QUARTER_BLOCKzhZENGE
  a_DIVIDED_BY_HORIZONTAL_RULEziREbIbMbOcUGGAGEfNGSeYCIAN_LETTER_AaNcBaHcDbEaNcGbHbIbJbKaKcLbMaMcN
  aNcPbQbRbSbTaHbTcUbWbXbZnDIAN_LETTER_AaNcBbCbDbEaNcFbGbIbKbLaYcMbNaNcObQbRbSaScTaTcUbVbY
  iTRIANGULAR_MARKuING_FACEkMACRONeGEbIC_WANDhNETeHAJANI_ABBREVIATION_SIGNrLETTER_AbBAbHAdCAbHAdDA
  bDAbHAdHAdEbGAbHAdHAcIbJAbHAdKAbHAdLAcMAcNAbNAcYAdObPAbHAdRAbRAdSAcTAbHAcTAbHAeUbVAiIGATURE_SHRI
  nSECTION_MARKlIGN_NUKTAqJONG_TILE_AUTUMNgBACKcMBOOgCHRYSANTHEMUMnEAST_WINDiIGHT_OF_BAMBOOS
  hCHARACTERSjIRCLESqFIVE_OF_BAMBOOShCHARACTERSjIRCLESoOUR_OF_BAMBOOShCHARACTERSjIRCLES
  pGREEN_DRAGONmJOKERfNINE_OF_BAMBOOShCHARACTERSjIRCLESoORTH_WINDkONE_OF_BAMBOOShCHARACTERSjIRCLES
  nRCHIDgPLUMeRED_DRAGONkSEVEN_OF_BAMBOOShCHARACTERSjIRCLESpIX_OF_BAMBOOShCHARACTERSjIRCLES
  nOUTH_WINDjPRINGfUMMERgTHREE_OF_BAMBOOShCHARACTERSjIRCLESpWO_OF_BAMBOOShCHARACTERSjIRCLES
  oWEST_WINDiHITE_DRAGONlINTERrKASAR_ANGKAfEND_OF_SECTIONoLETTER_AbBAcCAcDAcGAcJAcKAcLAcMAcNAbGAcYA
  dPAcRAcSAcTAcVAcYAjPASSIMBANGkVOWEL_SIGN_EbIbObUsLAYALAM_AU_LENGTH_MARKoDATE_MARKiIGIT_EIGHTfFIVE
  dOUReNINEeONEdSEVENeIXdTHREEeWOdZEROkFRACTION_ONE_EIGHTHgFIFTHeORTIETHiHALF
  eONE-HUNDRED-AND-SIXTIETHyQUARTERhSIXTEENTHjTENTHeWENTIETHnTHREE_EIGHTIETHSkQUARTERSiSIXTEENTHS
  kTWENTIETHSzLETTER_AaAbIbRCHAIC_IIjUcBAbHAdCAbHAbILLU_KbLaLaLdMbNaNcRRcYiDAbDAbHAdHAcOT_REPHiEaE
  cGAbHAdHAcIaIcJAbHAdKAbHAdLAbLAbLAeMAcNAbGAcNAbNAdYAdOaOcPAbHAdRAbRAdSAbHAcSAdTAbHAcTAbHAcTAeUaU
  cVAbEDIC_ANUSVARAnOCALIC_LaLcRaRkYAjNUMBER_ONE_HUNDREDhTHOUSANDmTENkSIGN_ANUSVARAhVAGRAHA
  iCANDRABINDUkIRCULAR_VIRAMAoOMBINING_ANUSVARA_ABOVEyPARAeVERTICAL_BAR_VIRAMAsIRAMAeSARGA
  mVOWEL_SIGN_AAbIbUcEaEcIaIcOaOcUaUcVOCALIC_LaLcRaRzdE_AND_FEMALE_SIGNpSIGN
  eWITH_STROKE_AND_MALE_AND_FEMALE_SIGNySIGNsTESE_CROSSlMMOTHfNa_AND_WOMAN_HOLDING_HANDSxDANCING
  hIN_BUSINESS_SUIT_LEVITATINGyTUXEDOjWITH_GUA_PI_MAOkTURBANmAT_SIGNhDAIC_AFFRICATION_MARK
  qGEMINATION_MARKpLETTER_ABbDbGbHbINcKaSAdLbMbNbPbQbRbSaHbZcTaTcZcDUSHENNAiHALQAfINbTcKADdUSHENNA
  oPUNCTUATIONlVOCALIZATION_MARKwGOcICHAEAN_ABBREVIATION_MARK_ABOVEfBELOWxLETTER_AAYINeLEPHeYIN
  eBETHdHETHfDALETHfHAMEDHhFEcGHIMELfIMELfHEaTHeJAYINeHAYINgKAPHdHAPHfLAMEDHgMEMdNUNdPEcQHOPHeOPH
  eRESHeSADHEdMEKHfHINdSHINfTAWcETHdHAMEDHhWAWdXAPHdOPHeYODHeZAYINeHAYINnNUMBER_FIVEeONEa_HUNDRED
  lTENcWENTYnPUNCTUATION_DOTa_WITHIN_DOTmUBLE_DOT_WITHIN_DOTvFLEURONhLINE_FILLERlSTAReTWO_DOTS
  uSIGN_UDpS_SHOEgTELPIECE_CLOCKoUAL_WHEELCHAIRpP_SYMBOL_FOR_LIGHTHOUSEwLE_LEAFiRCHEN_HEAD_MARK
  jLETTER_-AcAbBAcCAbHAdDAbZAdGAcHAcJAcKAbHAdLAcMAcNAbGAcYAdPAbHAdRAcSAbHAdTAbHAcSAbHAeWAcYAcZAbHA
  kMARK_SHADjSIGN_ANUSVARAiCANDRABINDUpUBJOINED_LETTER_AbBAcCAbHAdDAbZAdGAcHAcJAcKAbHAdLAcMAcNAbGA
  cYAdPAbHAdRAcSAbHAdTAbHAcSAbHAeWAcYAcZAbHAuVOWEL_SIGN_AAcEbIbObUrRIAGE_SYMBOLmTIAL_ARTS_UNIFORM
  sSARAM_GONDI_DIGIT_EIGHTfFIVEdOUReNINEeONEdSEVENeIXdTHREEeWOdZEROkLETTER_AaAbIbUcBAbHAdCAbHAdDA
  bDAbHAdHAdEbGAbHAdHAcIaIcJAbHAcNYAeKAbHAcSSAeLAbLAdMAcNAbGAcNAcYAdObPAbHAdRAcSAbHAcSAdTAbHAcRAcTA
  bHAeUaUcVAcYAjRA-KARAgEPHAfSIGN_ANUSVARAiCANDRAgHALANTAhNUKTAfVISARGAmVIRAMAfOWEL_SIGN_AAbIbUcEbI
  aIcObUaUcVOCALIC_RzgCULINE_ORDINAL_INDICATORyK_WORK_SYMBOLnU_MARKhTE_DRINK
  hHEMATICAL_BOLD_CAPITAL_AaLPHAfBaETAeCaHIdDaELTAeIGAMMAhEaPSILONgTAdFbGaAMMAfHbIaOTAeJbKaAPPAfL
  aAMDAfMaUcNaUcOaMEGAdICRONhPaHIcIbSIdQbRaHOdSaIGMAfTaAUcHETAa_SYMBOLmUaPSILONhVbWbXaIcYbZaETA
  mDIGIT_EIGHTfFIVEdOUReNINEeONEdSEVENeIXdTHREEeWOdZEROkEPSILON_SYMBOLoFRAKTUR_CAPITAL_AbBbCbDbEbF
  bGbHbIbJbKbLbMbNbObPbQbRbSbTbUbVbWbXbYbZjSMALL_AbBbCbDbEbFbGbHbIbJbKbLbMbNbObPbQbRbSbTbUbVbWbXbY
  bZpITALIC_CAPITAL_AaLPHAfBaETAeCaHIdDaELTAfEaPSILONgTAdFbGaAMMAfHbIaOTAeJbKaAPPAfLaAMDAfMaUcNaUcO
  aMEGAdICRONhPaHIcIbSIdQbRaHOdSaIGMAfTaAUcHETAa_SYMBOLmUaPSILONhVbWbXaIcYbZaETAmEPSILON_SYMBOL
  oKAPPA_SYMBOLmNABLAfPARTIAL_DIFFERENTIALtHI_SYMBOLjI_SYMBOLjRHO_SYMBOLkSMALL_AaLPHAfBaETAeCaHIdD
  aELTAfEaPSILONgTAdFaINAL_SIGMAlGaAMMAfHbIaOTAeJbKaAPPAfLaAMDAfMaUcNaUcOaMEGAdICRONhPaHIcIbSIdQbR
  aHOdSaIGMAfTaAUcHETAfUaPSILONhVbWbXaIcYbZaETAkTHETA_SYMBOLtKAPPA_SYMBOLmNABLA
  fPARTIAL_DIFFERENTIALtHI_SYMBOLjI_SYMBOLjRHO_SYMBOLkSCRIPT_CAPITAL_AbBbCbDbEbFbGbHbIbJbKbLbMbNbO
  bPbQbRbSbTbUbVbWbXbYbZjSMALL_AbBbCbDbEbFbGbHbIbJbKbLbMbNbObPbQbRbSbTbUbVbWbXbYbZnMALL_AaLPHAfB
  aETAeCaHIdDaELTAeIGAMMAhEaPSILONgTAdFaINAL_SIGMAlGaAMMAfHbIaOTAeJbKaAPPAfLaAMDAfMaUcNaUcOaMEGA
  dICRONhPaHIcIbSIdQbRaHOdSaIGMAfTaAUcHETAfUaPSILONhVbWbXaIcYbZaETAkTHETA_SYMBOL
  rDOUBLE-STRUCK_CAPITAL_AbBbDbEbFbGbIbJbKbLbMbObSbTbUbVbWbXbYjDIGIT_EIGHTfFIVEdOUReNINEeONEdSEVEN
  eIXdTHREEeWOdZEROkSMALL_AbBbCbDbEbFbGbHbIbJbKbLbMbNbObPbQbRbSbTbUbVbWbXbYbZvFALLING_DIAGONAL
  pRAKTUR_CAPITAL_AbBbDbEbFbGbJbKbLbMbNbObPbQbSbTbUbVbWbXbYjSMALL_AbBbCbDbEbFbGbHbIbJbKbLbMbNbObPbQ
  bRbSbTbUbVbWbXbYbZpITALIC_CAPITAL_AaLPHAfBaETAeCaHIdDaELTAfEaPSILONgTAdFbGaAMMAfHbIaOTAeJbKaAPPA
  fLaAMDAfMaUcNaUcOaMEGAdICRONhPaHIcIbSIdQbRaHOdSaIGMAfTaAUcHETAa_SYMBOLmUaPSILONhVbWbXaIcYbZaETA
  mEPSILON_SYMBOLoKAPPA_SYMBOLmNABLAfPARTIAL_DIFFERENTIALtHI_SYMBOLjI_SYMBOLjRHO_SYMBOLkSMALL_A
  aLPHAfBaETAeCaHIdDaELTAeOTLESS_IbJjEaPSILONgTAdFaINAL_SIGMAlGaAMMAfIaOTAeJbKaAPPAfLaAMDAfMaUcNaU
  cOaMEGAdICRONhPaHIcIbSIdQbRaHOdSaIGMAfTaAUcHETAfUaPSILONhVbWbXaIcYbZaETAkTHETA_SYMBOL
  tLEFT_ANGLE_BRACKETnDOUBLE_ANGLE_BRACKETuFLATTENED_PARENTHESISvWHITE_SQUARE_BRACKET
  oTORTOISE_SHELL_BRACKETziMONOSPACE_CAPITAL_AbBbCbDbEbFbGbHbIbJbKbLbMbNbObPbQbRbSbTbUbVbWbXbYbZ
  jDIGIT_EIGHTfFIVEdOUReNINEeONEdSEVENeIXdTHREEeWOdZEROkSMALL_AbBbCbDbEbFbGbHbIbJbKbLbMbNbObPbQbRbS
  bTbUbVbWbXbYbZrRIGHT_ANGLE_BRACKETnDOUBLE_ANGLE_BRACKETuFLATTENED_PARENTHESIS
  vWHITE_SQUARE_BRACKEToTORTOISE_SHELL_BRACKETzhSING_DIAGONALpSANS-SERIF_BOLD_CAPITAL_AaLPHAfBaETA
  eCaHIdDaELTAfEaPSILONgTAdFbGaAMMAfHbIaOTAeJbKaAPPAfLaAMDAfMaUcNaUcOaMEGAdICRONhPaHIcIbSIdQbRaHOdS
  aIGMAfTaAUcHETAa_SYMBOLmUaPSILONhVbWbXaIcYbZaETAmDIGIT_EIGHTfFIVEdOUReNINEeONEdSEVENeIXdTHREEeWO
  dZEROkEPSILON_SYMBOLoITALIC_CAPITAL_AaLPHAfBaETAeCaHIdDaELTAfEaPSILONgTAdFbGaAMMAfHbIaOTAeJbK
  aAPPAfLaAMDAfMaUcNaUcOaMEGAdICRONhPaHIcIbSIdQbRaHOdSaIGMAfTaAUcHETAa_SYMBOLmUaPSILONhVbWbXaIcYbZ
  aETAmEPSILON_SYMBOLoKAPPA_SYMBOLmNABLAfPARTIAL_DIFFERENTIALtHI_SYMBOLjI_SYMBOLjRHO_SYMBOLkSMALL_A
  aLPHAfBaETAeCaHIdDaELTAfEaPSILONgTAdFaINAL_SIGMAlGaAMMAfHbIaOTAeJbKaAPPAfLaAMDAfMaUcNaUcOaMEGA
  dICRONhPaHIcIbSIdQbRaHOdSaIGMAfTaAUcHETAfUaPSILONhVbWbXaIcYbZaETAkTHETA_SYMBOLtKAPPA_SYMBOLmNABLA
  fPARTIAL_DIFFERENTIALtHI_SYMBOLjI_SYMBOLjRHO_SYMBOLkSMALL_AaLPHAfBaETAeCaHIdDaELTAfEaPSILONgTAdF
  aINAL_SIGMAlGaAMMAfHbIaOTAeJbKaAPPAfLaAMDAfMaUcNaUcOaMEGAdICRONhPaHIcIbSIdQbRaHOdSaIGMAfTaAUcHETA
  fUaPSILONhVbWbXaIcYbZaETAkTHETA_SYMBOLrCAPITAL_AbBbCbDbEbFbGbHbIbJbKbLbMbNbObPbQbRbSbTbUbVbWbXbY
  bZjDIGIT_EIGHTfFIVEdOUReNINEeONEdSEVENeIXdTHREEeWOdZEROkITALIC_CAPITAL_AbBbCbDbEbFbGbHbIbJbKbLbM
  bNbObPbQbRbSbTbUbVbWbXbYbZjSMALL_AbBbCbDbEbFbGbHbIbJbKbLbMbNbObPbQbRbSbTbUbVbWbXbYbZoSMALL_AbBbC
  bDbEbFbGbHbIbJbKbLbMbNbObPbQbRbSbTbUbVbWbXbYbZrCRIPT_CAPITAL_AbCbDbGbJbKbNbObPbQbSbTbUbVbWbXbYbZ
  jSMALL_AbBbCbDbFbHbIbJbKbLbMbNbPbQbRbSbTbUbVbWbXbYbZzXIMIZEgYAN_NUMERAL_EIGHTaEENhLEVENgFIFTEEN
  fVEdOURaTEENiNINEaTEENiONEdSEVENaTEENiIXaTEENhTENcHIRTEENgREEeWELVEeOdZEROrEASURED_ANGLE
  a_OPENING_LEFTmWITH_OPEN_ARM_ENDING_IN_ARROW_POINTING_DOWN_AND_LEFTeRIGHToLEFT_AND_DOWNeUP
  lRIGHT_AND_DOWNeUPmUP_AND_LEFTeRIGHTzzhBYcRIGHT_ANGLE_WITH_DOTzbT_ON_BONEkCHANICAL_ARMdLEG
  mDEFAIDRIN_CAPITAL_LETTER_AaIbTIUeBbCbDbEbFbGbHaPcIbJbKaPcLbMbNaGbYcOaEcPbQbRbSbTbUbVbWbXbYaUcZ
  pOMMAfDIGIT_EIGHTfFIVEdOUReNINEeONEa_ALTERNATE_FORMsSEVENeIXdTHREEa_ALTERNATE_FORMtWO
  a_ALTERNATE_FORMsZEROkEXCLAMATION_OHoFULL_STOPjNUMBER_EIGHTEENhLEVENgFIFTEENgOURTEENiNINETEEN
  iSEVENTEENiIXTEENhTENcHIRTEENhWELVEnSMALL_LETTER_AaIbTIUeBbCbDbEbFbGbHaPcIbJbKaPcLbMbNaGbYcOaEcP
  bQbRbSbTbUbVbWbXbYaUcZnYMBOL_AIVAuIEVAL_COMMAfEXCLAMATION_MARKqQUESTION_MARKsUM_BLACK_CIRCLE
  lOLD_WHITE_CIRCLErEIGHT_POINTED_BLACK_STARsSPOKED_ASTERISKvFIVE_SPOKED_ASTERISK
  tLATTENED_LEFT_PARENTHESIS_ORNAMENTzRIGHT_PARENTHESIS_ORNAMENTzkOUR_POINTED_BLACK_STAR
  kPINWHEEL_STARzbGREEK_CROSSlLEFT_CURLY_BRACKET_ORNAMENTwPARENTHESIS_ORNAMENT
  v-POINTING_ANGLE_BRACKET_ORNAMENTzlMATHEMATICAL_SPACEsRIGHT_CURLY_BRACKET_ORNAMENT
  wPARENTHESIS_ORNAMENTv-POINTING_ANGLE_BRACKET_ORNAMENTzmSALTIREgHADEeIX_POINTED_BLACK_STAR
  sSPOKED_ASTERISKsMALL_WHITE_CIRCLEsTHREE_POINTED_BLACK_STARkPINWHEEL_STARzcVERTICAL_BAR
  mWHITE_CIRCLEgSQUARErETEI_MAYEK_AHANG_KHUDAMlNJIdPUN_IYEKjCHEIKHANcEIiDIGIT_EIGHTfFIVEdOUReNINE
  eONEdSEVENeIXdTHREEeWOdZEROkLETTER_ATIYAfBAbHAMeCHAbILeDDAbHAdHOUdILdEbGHOUdOKdHUKdIa_LONSUMiJHAM
  dILdKHOUdOKa_LONSUMkLAIa_LONSUMkMITa_LONSUMkNAa_LONSUMiGOUa_LONSUMkNAcYAdObPAa_LONSUMiHAMeRAIdSAM
  cHAcSAdTHOUdILa_LONSUMjTAbHAeUNcWAIdYANGkUM_IYEKiSYLLABLE_REPETITION_MARKyVIRAMAfOWEL_SIGN_AAIbU
  cNAPdUcCHEINAPhIIbNAPeNUNGeONAPeSOUNAPgUNAPdUcVISARGAhYENAPqWORD_REPETITION_MARKzgLONcTING_FACE
  kMOcNDE_KIKAKUI_COMBINING_NUMBER_HUNDRED_THOUSANDSkSiMILLIONSiTEENSdN_THOUSANDSkSdHOUSANDS
  zbDIGIT_EIGHTfFIVEdOUReNINEeONEdSEVENeIXdTHREEeWOjSYLLABLE_M001_KIe2_KAe3_KUe4_WIe5_WAe6_WUe7_MIN
  f8_MANf9_MUNg10_BIe1_BAe2_BUe3_Id4_Ad5_Ud6_DIe7_DAe8_DUe9_SIf20_SAe1_SUe2_TIe3_TAe4_TUe5_LIe6_LA
  e7_LUe8_JIe9_JAf30_JUe1_YIe2_YAe3_YUe4_FIe5_FAe6_FUe7_NINf8_NANf9_NUNg40_HEEf1_HAe2_HOOf3_NGGA
  g4_KPEEg5_WOe6_HUANg7_MBEEg8_KOe9_WVAg50_PUe1_PEe2_HENf3_HINf4_LOOf5_TEe6_GBAf7_NGONg8_NYANg9_MEN
  g60_NYONg1_WVIf2_MBAf3_JOe4_NDOf5_KEEf6_POe7_NDOOg8_PIe9_TOf70_GBOf1_GBOOg2_MBEf3_LEe4_KPUf5_FE
  e6_KOOf7_VOe8_FEEf9_SOf80_YEe1_PEEf2_NGGUg3_HEEIg4_LEEf5_VEe6_LONG_NGGEl7_HUNf8_FOe9_DEEg90_NGGI
  g1_TEEf2_KPAf3_GBEEg4_MONf5_KEe6_HEe7_BEe8_NYENg9_PAg100_Ed1_FANf2_POOf3_BOOf4_TOOf5_LONG_MBOO
  l6_LONG_NGGOOm7_GBEf8_KPEf9_YEEg10_LONG_LEj1_GAe2_KPOOg3_JEe4_WOOf5_NGGEEh6_SEe7_NENf8_WEe9_NDE
  g20_NGGOg1_YOe2_MBUf3_NDIf4_GBIf5_NDUf6_WEEf7_NGGUAh8_HOOUg9_NDAg30_HANf1_INe2_KPIf3_FOOf4_NJOO
  g5_INe6_SOOf7_EIe8_BOe9_WVEg40_HOe1_YOOf2_LONG_MBOk3_WEIf4_VOOf5_MBIf6_NGGEg7_Od8_GBUf9_NJEE
  h50_BEEf1_VUe2_NJAf3_LOe4_MUANg5_GIe6_NGGOOh7_JEEf8_KPOf9_NGGAAi60_JOOf1_LONG_MBEk2_SEEf3_EE
  e4_NYINg5_OOe6_GUEIg7_GUANg8_GUe9_NONg70_NYUNg1_RAe2_MBOOg3_VEEf4_MBOf5_LONG_JOj6_HIe7_NGUANh8_EN
  e9_KUAg80_DOOf1_DOe2_VIe3_LONG_NGGOl4_NGENg5_VAe6_HUe7_MBUUg8_MBEEg9_MUENh90_GEEf1_NDEEg2_NJU
  f3_HONf4_WUIf5_ANe6_SIAf7_FUAzdORAH_WITH_NINE_BRANCHESxS_SYMBOLjRCURY
  eOITIC_CURSIVE_FRACTION_EIGHT_TWELFTHSnLEVEN_TWELFTHSpFIVE_TWELFTHSmOUR_TWELFTHSnNINE_TWELFTHS
  nONE_HALFeTWELFTHlSEVEN_TWELFTHSnIX_TWELFTHSmTEN_TWELFTHSlHREE_TWELFTHSnWO_TWELFTHSvLETTER_A
  aRCHAIC_SAkBAcDAcEbHHAdIbKAbHAdLAcMAcNAbEcObPAcQAcRAcSAbEcTAbEbOcWAcYAiOGOGRAM_IMNdRMT
  mNUMBER_EIGHTa_HUNDREDa_THOUSANDqTHOUSANDjY_THOUSANDpFIFTYa_THOUSANDmVEa_HUNDREDa_THOUSAND
  qTHOUSANDmORTYa_THOUSANDmURa_HUNDREDa_THOUSANDqTHOUSANDnNINEa_HUNDREDa_THOUSANDqTHOUSAND
  jTY_THOUSANDpONEa_HUNDREDa_THOUSANDqTHOUSANDmSEVENa_HUNDREDa_THOUSANDqTHOUSANDjTYa_THOUSANDpIX
  a_HUNDREDa_THOUSANDqTHOUSANDjTYa_THOUSANDoTENa_THOUSANDlHIRTYa_THOUSANDnREEa_HUNDREDa_THOUSAND
  qTHOUSANDnWENTYa_THOUSANDnOa_HUNDREDa_THOUSANDqTHOUSANDzcHIEROGLYPHIC_LETTER_AbBAa-2eDAcEbHHAdI
  bKAbHAdLAcMAcNAa-2dEa-2eObPAcQAcRAa-2eSAa-2dEcTAa-2dEa-2dOcWAcYAjSYMBOL_VIDJa-2zhPERSON
  hSSAGE_WAITINGnTRICAL_BREVEfLONG_OVER_SHORTfTWO_SHORTSuPENTASEMEjSHORT_OVER_LONGpTETRASEMEiRISEME
  gWO_SHORTS_JOINEDgOVER_LONGzOeIAO_LETTER_AHbRCHAIC_MAcNAbGAdZZAlBAbRIdDAbDAcLHAbYAeZAbHAcYIcZAeFA
  cGAbHAbHAeHAbHAdKAcLAbHAbYAdYAdMAbHAdNAaSALIZATIONlGAbHAdHAcNAbHAdYAbHAePAbLAdQAbGA
  dREFORMED_TONE-1b2b4b5b6b8fSHAmTEdSAbHAcSAcYIdTAbEbLHAbYAeONE-2b3b4b5b6b7b8fSAbEbHAcSAdTAdVAbFA
  dWAcXAcYI_DZHAeKAcNNAdPAcTAbSAbHAdTAgZAbHAcSAbHAdZAbSAbYAdYAlSIGN_ASPIRATION
  kCONSONANT_MODIFIER_BARwREFORMED_ASPIRATIONkVOICINGvTONE_ABOVEfBELOWfRIGHTfTOP_RIGHToVOWEL_SIGN_A
  aAbEaEcHHcIbNaGcUcEaAbIbNaGcRaRdIaAaNaGdEbGbIbNGcOaNGdUcNaGcOaERbYcGbObUcROUNDED_ERaRlUaAaNaGdEI
  cIbNGcOGcUcVWcWaOcYaIbUIrCR_DASH_SYMBOLlON_US_SYMBOLnO_SIGNfBEcPHONEfSCOPEiDDLE_DOT
  dTHIRD_WHITE_RIGHT_POINTING_INDEXzlLINE_HORIZONTAL_ELLIPSISzLITARY_HELMETgMEDALlKY_WAYgL_SIGN
  hNIBUSdDISCeMIZEfUS_SIGNa_IN_TRIANGLElWITH_COMMA_ABOVElDOT_BELOWjFALLING_DOTSmRISING_DOTSvTILDE
  g-OR-PLUS_SIGNpYcRRORa_BALLkMSPdOBILE_PHONEa_OFFdWITH_RIGHTWARDS_ARROW_AT_LEFTzpDELS
  cRN_PENTATHLONoI_ABBREVIATION_SIGNrDANDAeIGIT_EIGHTfFIVEdOUReNINEeONEdSEVENeIXdTHREEeWOdZERO
  jOUBLE_DANDAmLETTER_AaAbIbUcBAbHAdCAbHAdDAbDAbHAdHAdEbGAbHAdHAcIaIcJAbHAdKAbHAdLAbLAdMAcNAbGAcNA
  cYAdObPAbHAdRAcSAbHAcSAdTAbHAcTAbHAeUaUcVAbOCALIC_LaLcRaRkYAjSIGN_ANUSVARAhRDHACANDRAlHUVAeVIRAMA
  eSARGAmVOWEL_SIGN_AAbIbUcEbIaIcObUaUcVOCALIC_LaLcRaRwFIER_BREVE_WITH_INVERTED_BREVE
  zLETTER_ACUTE_ACCENTlLVEOLAR_CLICKnPOSTROPHEkBEGIN_HIGH_TONEjLOW_TONEnILABIAL_CLICKoCAPITAL_AaEcB
  aARRED_BiCbDbEbFbGbHa_WITH_STROKEnIbJbKbLbMbNbOaUcPbQbRaEVERSED_EbNkTbUbVbWiENTRED_LEFT_HALF_RING
  oRIGHT_HALF_RINGwHINESE_TONE_YANG_PINGeQUcRUcSHANGjIN_PINGeQUcRUcSHANGvIRCUMFLEX_ACCENTqOLON
  eROSS_ACCENTlYRILLIC_ENcHARD_SIGNjSOFT_SIGNsDENTAL_CLICKlOT_HORIZONTAL_BARoSLASHfVERTICAL_BAR
  oUBLE_APOSTROPHEkPRIMEkWN_ARROWHEADjTACKjEND_HIGH_TONEjLOW_TONE
  lXTRA-HIGH_DOTTED_LEFT-STEM_TONE_BARsTONE_BARpLEFT-STEM_TONE_BARsTONE_BAR
  nLOW_DOTTED_LEFT-STEM_TONE_BARsTONE_BARpLEFT-STEM_TONE_BARsTONE_BARsGEORGIAN_NARlLOTTAL_STOP
  a_WITH_STROKExRAVE_ACCENTmHALF_TRIANGULAR_COLONuIGH_DOTTED_LEFT-STEM_TONE_BARsTONE_BAR
  pLEFT-STEM_TONE_BARsTONE_BARnLATERAL_CLICKmEFT_ARROWHEADjHALF_RINGjTACKiOW_ACUTE_ACCENT
  mCIRCUMFLEX_ACCENTrDOTTED_LEFT-STEM_TONE_BARsTONE_BARnWN_ARROWHEADoGRAVE_ACCENT
  mINVERTED_EXCLAMATION_MARKzLEFT_ARROWaHEADk-STEM_TONE_BARsMACRONgRIGHT_ARROWHEADnNGeTILDEeONE_BAR
  iUP_ARROWHEADmVERTICAL_LINEoER_RIGHT_CORNER_ANGLEyMACRONfID_DOTTED_LEFT-STEM_TONE_BARsTONE_BAR
  pLEFT-STEM_TONE_BARsTONE_BARjDLE_DOUBLE_ACUTE_ACCENTmGRAVE_ACCENTtGRAVE_ACCENTrNUS_SIGN
  kOPEN_SHELFkPLUS_SIGNiRIMEfRAISED_COLONfDOWN_ARROWkEXCLAMATION_MARKqINVERTED_EXCLAMATION_MARK
  zUP_ARROWoETROFLEX_CLICK_WITH_RETROFLEX_HOOKziVERSED_COMMAfGLOTTAL_STOPa_WITH_STROKEzhHOTIC_HOOK
  kIGHT_ARROWHEADjHALF_RINGjTACKkSHELFdORT_EQUALS_SIGNqMALL_AaEbINcLPHAfBa_WITH_HOOKkARRED_OhETA
  dOTTOM_HALF_OnCa_WITH_CURLkAPITAL_AAcBbGa_WITH_HOOKlHbIa_WITH_STROKEmNVERTED_RkLa_WITH_BELTlNbOE
  cRbUbYiHIcLOSED_OMEGAfREVERSED_OPEN_EwDa_WITH_HOOKa_AND_TAILnTAILkELTAdZH_DIGRAPH
  lOTLESS_J_WITH_STROKEa_AND_HOOKzeZ_DIGRAPHa_WITH_CURLeRETROFLEX_HOOKzfEaNGcSHcTHcZHdFaENG_DIGRAPH
  mGa_WITH_HOOKkAMMAeREEK_GAMMAfPHIjHa_WITH_HOOKeSTROKEmENGa_WITH_HOOKoI_WITH_STROKEmOTAeJ
  a_WITH_CROSSED-TAILtKbLa_WITH_BELTeINVERTED_LAZY_SpMIDDLE_TILDEmPALATAL_HOOKmRETROFLEX_HOOK
  a_AND_BELTzeEZHa_WITH_RETROFLEX_HOOKxIGATURE_OEkS_DIGRAPHjZ_DIGRAPHkMa_WITH_HOOKlN_WITH_LEFT_HOOK
  jRETROFLEX_HOOKvOa_WITH_STROKEmPEN_EbOgPaHIdQbRa_WITH_FISHHOOKiTAILkAMS_HORNiEVERSED_E
  bGLOTTAL_STOPmOPEN_EpSa_WITH_CURLeHOOKkCHWAdRIPT_GhIDEWAYS_UkTa_WITH_PALATAL_HOOKmRETROFLEX_HOOK
  uC_DIGRAPH_WITH_CURLtESH_DIGRAPHlHETAeOP_HALF_OjS_DIGRAPHa_WITH_RETROFLEX_HOOKzeURNED_AaEbLPHAfH
  bIbMa_WITH_LONG_LEGpOPEN_EgRa_WITH_HOOKeLONG_LEGa_AND_RETROFLEX_HOOKzjVbWbYa_WITH_BELTsUa_BAR
  dWITH_LEFT_HOOKpPSILONhVa_WITH_HOOKeRIGHT_HOOKrWbXbYbZa_WITH_CURLeRETROFLEX_HOOK
  zbTRESS_AND_HIGH_TONEjLOW_TONEsUPERSCRIPT_HALF_TRIANGULAR_COLONvTRIANGULAR_COLON
  zdTRIANGULAR_COLONpURNED_COMMAmUNASPIRATEDkP_ARROWHEADjTACKgScVERTICAL_LINEmOICING
  hYANG_DEPARTING_TONE_MARKxIN_DEPARTING_TONE_MARKzlULO_TWO_SUMmNEY_BAGdWITH_WINGSl-MOUTH_FACE
  nGOLIAN_BIRGAa_WITH_DOUBLE_ORNAMENTpORNAMENTtCOLONdMMAfDIGIT_EIGHTfFIVEdOUReNINEeONEdSEVENeIX
  dTHREEeWOdZEROjOUBLE_BIRGA_WITH_ORNAMENTzbELLIPSISiFOUR_DOTSiREE_VARIATION_SELECTOR_FOUReONE
  dTHREEeWOzbULL_STOPjINVERTED_BIRGAa_WITH_DOUBLE_ORNAMENTzkLETTER_AaLI_GALI_AaHbNUSVARA_ONEmBALUDA
  gCAcDAaGALGAfMARUfDAdHALF_UbYAhIaNVERTED_UBADAMAqKAcNGAcNAdPAbHAdSSAdTAbHREE_BALUDAlTAbHAeUBADAMA
  hVISARGA_ONElZAbHAlNGdBAcCHAa_WITH_TWO_DOTSpIdDAcEaEcFAcGAcHAAdIbJAcKAbHAdLAbHAdMA
  aNCHU_ALI_GALI_BHAdCAbYAdDDHAdHAdGHAdJHAdLHAdNGAdSSAdTAbTAdZAbHAmFAcIbKAcRAcZHAkNAcOaEcPAcQAcRA
  cSAbHAcIBE_ANGdCHAdDAcEbFAcGAaAdHAaAdIaYcJAcKAcPAcRAAdSHAdTAbSAdUaEcZAbHAiTAbODO_ALI_GALI_TAcZHA
  lNGdBAcCHAdDAbZAdEbGAaAdHAAdIbJAbIAdKAcLONG_VOWEL_SIGNpMAcNIAdOaEcPAcQAcTAbSAdUaEcWAcYAgSAdUaEcWA
  cYAcZAbHIcRAkMANCHU_COMMAfFULL_STOPqNIRUGUgROTATED_BIRGAa_WITH_DOUBLE_ORNAMENTpORNAMENT
  zcSIBE_SYLLABLE_BOUNDARY_MARKERzdWIRL_BIRGAa_WITH_DOUBLE_ORNAMENTpORNAMENTzTODO_SOFT_HYPHEN
  pRIPLE_BIRGA_WITH_ORNAMENTzURNED_SWIRL_BIRGA_WITH_DOUBLE_ORNAMENTzoVOWEL_SEPARATORwKEYa_FACE
  iOGRAM_FOR_EARTHfYANGdINmRAILeSTABLE_SYMBOLpOD_BUBBLEiN_CAKEeVIEWING_CEREMONYtSQUEbITO
  gTHER_CHRISTMASnOR_BOATeSCOOTERiIZED_WHEELCHAIRpWAYgUNT_FUJIfAINa_BICYCLISTjCABLEWAYiRAILWAYnSE
  a_FACEeTRAPhTHdVIE_CAMERAkYAIeRO_DANDAeIGIT_EIGHTfFIVEdOUReNINEeONEdSEVENeIXdTHREEeWOdZERO
  jOUBLE_DANDAmLETTER_AbBAcCHUdDAaIdEaAcHAIbOdKEAAEeHAIdOcLAaNdMAEMdIMdNGIcINdOaLbOcPAbHIdRIbOcSHI
  dTAbEKcHEAeWAcYOmUCH_GREATER-THANmLESS-THANmLTANI_LETTER_AbBAbHAdCAbHAdDAbDAbDAcHAdHAdEbGAbHAdHA
  cIbJAbJAdKAbHAdLAcMAcNAbNAcYAdPAbHAdRAbHAcRAdSAcTAbHAcTAbHAeUbVAcYAjSECTION_MARKqIMAP
  dPLE_MUSICAL_NOTESpICATION_SIGNa_IN_DOUBLE_CIRCLEnLEFT_HALF_CIRCLEqRIGHT_HALF_CIRCLErTRIANGLE
  lWITH_DOT_ABOVEjUNDERBARsXlSETa_MULTIPLICATIONoUNIONmSHROOMfIC_FLAT_SIGNjNATURAL_SIGNmSHARP_SIGN
  lAL_KEYBOARDa_WITH_JACKStNOTEeSCOREeYMBOL_ARPEGGIATO_DOWNeUPnBEGIN_BEAMePHRASEgSLUReTIEiRACEbKET
  fEATH_MARKiVEbISa_RESTlC_CLEFfAESURAgIRCLE_X_NOTEHEADqLIMACUSfVISeUSTER_NOTEHEAD_BLACKfWHITEvODA
  cMBINING_ACCENTa-STACCATOoUGMENTATION_DOTqBENDeDOITcUBLE_TONGUElWN_BOWiFLAG-1b2b3b4b5eIPeHARMONIC
  iLOUREfMARCATOa-STACCATOqRIPdSMEAReNAP_PIZZICATOnPRECHGESANG_STEMqTACCATISSIMOgOgEMeTENUTO
  fREMOLO-1b2b3hIPLE_TONGUEnUP_BOWnMON_TIMEkRESCENDOhOIXeUT_TIMEiDA_CAPOfL_SEGNOhMPa_ALL
  gSHED_BARLINEnECRESCENDOjGREE_SLASHlOUBLE_BARLINEhFLATeSHARPlRUM_CLEF-1b2lEIGHTH_NOTEeREST
  kND_BEAMeOF_STIMMEjPHRASEgSLUReTIEhF_CLEFa_OTTAVA_ALTAeBASSAsERMATAa_BELOWmINAL_BARLINE
  kGERED_TREMOLO-1b2b3qVE-LINE_STAFFoLAT_DOWNeUPgORTEdUR-LINE_STAFFkSTRING_FRETBOARDuUSA_BLACK
  fWHITEkG_CLEFa_OTTAVA_ALTAeBASSAsLISSANDO_DOWNeUPlRACE_NOTE_NO_SLASHiSLASHoEGORIAN_C_CLEFgF_CLEF
  qHALF_NOTEePEDAL_MARKkRESThUPTSTIMMElINVERTED_TURNnKIEVAN_C_CLEFgEIGHTH_NOTE_STEM_DOWNeUP
  sND_OF_PIECEmFINAL_NOTEjLAT_SIGNjHALF_NOTEjQUARTER_NOTE_STEM_DOWNeUPuRECITATIVE_MARKpWHOLE_NOTE
  qORONfLEFT_REPEAT_SIGNpONGAa_IMPERFECTA_RESTpPERFECTA_RESTtMAXIMAfEZZOeINIMAa_BLACKfREST
  kOON_NOTEHEAD_BLACKfWHITEsULTI_RESTfPLE_MEASURE_RESTvNATURAL_DOWNeUPjEBENSTIMMEkOTEHEAD_BLACK
  nULL_NOTEHEADnONE_HUNDRED_TWENTY-EIGHTH_NOTEeRESTzc-LINE_STAFFnRNAMENT_STROKE-1a0b1c2b3b4b5b6b7b8
  b9qTTAVA_ALTAeBASSAmPARENTHESIS_NOTEHEADtEDAL_MARKeUP_MARKlS_SUBPUNCTISnIANOeLUS_NOTEHEADmODATUS
  fRRECTUSa_FLEXUSqQUARTER_NOTEeRESTeTONE_FLATeSHARPqINDICESIMA_ALTAeBASSAsREPEAT_DOTSfED_FIGURE-1
  b2b3pVERSE_FINAL_BARLINEuIGHT_REPEAT_SIGNpNFORZANDOlSCANDICUSa_FLEXUSpEGNOdMIBREVIS_BLACKfREST
  eWHITEmMINIMA_BLACKfRESTeWHITEpHARP_DOWNeUPgORT_BARLINEmINGLE_BARLINEmX-LINE_STAFF
  kSTRING_FRETBOARDrTEENTH_NOTEeRESTkY-FOURTH_NOTEeRESTqORIdQUARE_BbNOTEHEAD_BLACKfWHITEuUBITO
  gTEMPUS_IMPERFECTUM_CUM_PROLATIONE_IMPERFECTAa_DIMINUTION-1b2b3xPERFECTA
  zkPERFECTUM_CUM_PROLATIONE_IMPERFECTAkPERFECTAa_DIMINUTION-1zzcHIRTY-SECOND_NOTEeREST
  qREE-LINE_STAFFpORCULUSa_RESUPINUSrRaIANGLE_NOTEHEAD_DOWN_BLACKfWHITEkLEFT_BLACKfWHITE
  kRIGHT_BLACKfWHITElUP_BLACKfRIGHT_BLACKfWHITElWHITEs-ROUND_NOTEHEAD_DOWN_BLACKfWHITEziURNa_SLASH
  fUPgWO-LINE_STAFFoVIRGAeOID_NOTEHEADnWHOLE_NOTEeRESTjITH_FINGERNAILSqX_NOTEHEADkZpVScW
  bYANMAR_CONSONANT_SIGN_MEDIAL_HAcRAcWAcYAiON_MEDIAL_LAcMAcNAnSHAN_MEDIAL_WAzeDIGIT_EIGHTfFIVEdOUR
  eNINEeONEdSEVENeIXdTHREEeWOdZEROkLETTER_AaITON_RAhUcBAbHAdCAbHAdDAbDAbHAdHAdE
  aASTERN_PWO_KAREN_GHWAeNNAdYWAvGAbHAcREAT_SAiHAcIaIcJAbHAdKAbHAaMTI_CAbHAdDDAbHAdHAdFAcGAcHAbHA
  dJAbHAdLLAdNAbYAdRAcSAcTTAbHAeXAcZAjLAbLAdMAbON_BBAbEdEbJHAdNGAhNAbGAcNAbYAdYAdObPAbHAdRA
  bUMAI_PALAUNG_FAqSAbGAW_KAREN_SHAnHAaN_AbBAbHAdCAbHAdDAcFAcGAbHAdHAcJHAdKAbHAdNAbNAcYAdPHAdTHAdZA
  fWE_PALAUNG_CHAdSHApSAdTAaI_LAING_BAbHAdDAbDAbHAdHAdFAcGAbHAdJAbHAdLLAdNNAcYAmHAcTAbHAeUaU
  cVOCALIC_LaLcRaRkWAbESTERN_PWO_KAREN_PWAdTHAvYAiOGOGRAM_KHAMTI_HMcOAYdQN
  sMODIFIER_LETTER_KHAMTI_REDUPLICATIONuSHAN_REDUPLICATIONzjSHAN_DIGIT_EIGHTfFIVEdOUReNINEeONE
  dSEVENeIXdTHREEeWOdZEROoIGN_ANUSVARAhSATeDOT_BELOWjKHAMTI_TONE-1b3nLITTLE_SECTIONoPAO_KAREN_TONE
  oRUMAI_PALAUNG_TONE-5uSECTIONgHAN_COUNCIL_EMPHATIC_TONEnTONE-2b3oSAWdTONE-2b3b5b6
  lTAI_LAING_TONE-2b5qVIRAMAeSARGAhWESTERN_PWO_KAREN_TONE-1b2b3b4b5zdYMBOL_AFOREMENTIONED
  nITON_EXCLAMATIONlONEdTWOjCOMPLETEDjGENITIVEiLOCATIVEiSHAN_EXCLAMATIONlONEpTAI_LAING_DIGIT_EIGHT
  fFIVEdOUReNINEeONEdSEVENeIXdTHREEeWOdZEROtONE_MARK_SGAW_KAREN_HATHIfKE_PHOzcVOWEL_SIGN_AAbIaTON_A
  aIiEa_ABOVEhGEBA_KAREN_ImIaIcKAYAH_EEcOEcUhMON_IIcOfSGAW_KAREN_EUmHAN_AAcEa_ABOVEhFINAL_YmTALL_AA
  hUaUcVOCALIC_LaLcRaRkWESTERN_PWO_KAREN_EUcUEzoN-ARY_CIRCLED_DOT_OPERATORmPLUS_OPERATOR
  nTIMES_OPERATORvOPRODUCTjINTERSECTIONmLOGICAL_ANDdORkPRODUCThSQUARE_INTERSECTION_OPERATOR
  vUNION_OPERATORuUMMATIONjTIMES_OPERATORoUNIONa_OPERATOR_WITH_DOTdPLUSyWHITE_VERTICAL_BAR
  xABATAEAN_CRUCIFORM_NUMBER_FOURvLETTER_ALEPHeYINeBETHeDALETHgFINAL_ALEPHfBETHeHEcKAPHeLAMEDHgMEM
  dNUNdSHINeYODHkGIMELfHEaTHeKAPHeLAMEDHgMEMdNUNdPEcQOPHeRESHeSADHEdMEKHfHINeTAWcETHeWAWdYODHeZAYIN
  mNUMBER_FIVEdOUReONEa_HUNDREDlTENcHREEeWENTYeOrLAdIL_POLISHiRA_SIGNiKbME_BADGEiND
  aINAGARI_HEADSTROKEkLETTER_AaAbIbUcBAbHAdCAbHAdDAbDAbHAdHAdEbGAbHAdHAcIaIcJAbHAdKAbHAdLAbLAdMAcNA
  bGAcNAcYAdObPAbHAdRAbRAdSAbHAcSAdTAbHAcTAbHAeUaUcVAbOCALIC_RaRkYAjSIGN_ANUSVARAhVAGRAHAiSIDDHAM
  hVIRAMAeSARGAmVOWEL_SIGN_AAbIbUcEbIaIcObPRISHTHAMATRA_EpUaUcVOCALIC_RaRzgRROW_NO-BREAK_SPACE
  tTIONAL_DIGIT_SHAPESmPARKlUSEATED_FACEmZAR_AMULETlBHbSPdECKTIE
  fGATED_DOUBLE_VERTICAL_BAR_DOUBLE_RIGHT_TURNSTILEzuIVE_ACKNOWLEDGElCIRCLED_DIGIT_ZERO
  kLATIN_CAPITAL_LETTER_AbBbCbDbEbFbGbHbIbJbKbLbMbNbObPbQbRbSbTbUbVbWbXbYbZwNUMBER_EIGHTEENhLEVEN
  gFIFTEENgOURTEENiNINETEENiSEVENTEENiIXTEENhTHIRTEENhWELVEdNTYnSQUAREgTRIANGLEqDIAGONAL_CROSS
  fDIAMONDhMIDDLE_RIGHT_TO_LOWER_CENTREzmSQUARED_ABcCROSS_MARKkICcLATIN_CAPITAL_LETTER_AbBbCbDbEbF
  bGbHbIbJbKbLbMbNbObPbQbRbSbTbUbVbWbXbYbZwPAcQUESTION_MARKnSAcWCrITHER_A_SUBSET_OF_NOR_EQUAL_TO
  uPERSET_OF_NOR_EQUAL_TOzPPROXIMATELY_NOR_ACTUALLY_EQUAL_TOzkGREATER-THAN_NOR_EQUAL_TOfIVALENT_TO
  nLESS-THANzbLESS-THAN_NOR_EQUAL_TOfIVALENT_TOnGREATER-THANzhLbPTUNEa_FORM_TWOoRD_FACEhSSUS
  dT_WITH_EGGSkING_DOLLSlUTERcRAL_CHESS_BISHOPa_ROTATED_NINETY_DEGREESoTWO_HUNDRED_SEVENTY_DEGREES
  zrEQUIHOPPERa_ROTATED_NINETY_DEGREESziKINGa_ROTATED_NINETY_DEGREESoTWO_HUNDRED_SEVENTY_DEGREES
  zoNIGHTa_ROTATED_FORTY-FIVE_DEGREESsNINETY_DEGREESoONE_HUNDRED_THIRTY-FIVE_DEGREES
  zgTHREE_HUNDRED_FIFTEEN_DEGREESzdWO_HUNDRED_SEVENTY_DEGREESpTWENTY-FIVE_DEGREESzvPAWN
  a_ROTATED_NINETY_DEGREESoTWO_HUNDRED_SEVENTY_DEGREESzpQUEENa_ROTATED_NINETY_DEGREES
  oTWO_HUNDRED_SEVENTY_DEGREESzqROOKa_ROTATED_NINETY_DEGREESoTWO_HUNDRED_SEVENTY_DEGREES
  zpTURNED_BISHOPgKINGdNIGHTgPAWNeQUEENfROOKrFACEkW_LINEeMOON_SYMBOLgWITH_FACEoSHEQEL_SIGN
  lTAI_LUE_DIGIT_EIGHTfFIVEdOUReNINEeONEdSEVENeIXdTHREEeWOdZEROkLETTER_FINAL_BbDbKbMbNaGcVhHIGH_BA
  cDAcFAcHAcKAbVAdLAcMAcNAbGAdPAbHAdQAcSAbUAdTAbHAcSAdVAcXAbVAdYAhLOW_BAcDAcFAcHAcKAbVAdLAcMAcNAbGA
  dPAbHAdQAcSAbUAdTAbHAcSAdVAcXAbVAdYAnSIGN_LAEaVjTHAM_DIGIT_ONEnONE_MARK-1b2lVOWEL_SIGN_AAaYcEbYcE
  bIIbYcOaAaYcYcUaEaYcUbYcVOWEL_SHORTENERzkA_ABBREVIATION_SIGNrCOMMAfDANDAeIGIT_EIGHTfFIVEdOUReNINE
  eONEdSEVENeIXdTHREEeWOdZEROjOUBLE_COMMAfDANDAmGAP_FILLERkINSERTION_SIGNoLETTER_AaAbIbUcBAbHAdCA
  bHAdDAbDAbHAdHAdEbGAbHAdHAcIaIcJAbHAdKAbHAdLAbHAdMAbHAdNAbGAbHAdHAcNAcYAbHAeObPAbHAdRAbHAdSAbHA
  cSAdTAbHAcTAbHAeUaUcVEDIC_ANUSVARAnOCALIC_LaLcRaRkWAcYAjOMcPLACEHOLDER_MARKqSANDHI_MARKkIDDHI
  eGN_ANUSVARAhVAGRAHAiCANDRABINDUlFINAL_ANUSVARAoJIHVAMULIYAlNUKTAfUPADHMANIYAlVIRAMAeSARGA
  mVOWEL_SIGN_AAbIbUcEbIaIcObUaUcVOCALIC_LaLcRaRxLINE_LEFTeRIGHTkSPAPERhXT_LINEePAGE
  iIGHT_WITH_STARSoNJAeKO_COMBINING_DOUBLE_DOT_ABOVEqLONG_DESCENDING_TONEpHIGH_TONEjLOW_TONE
  iRISING_TONEqNASALIZATION_MARKrSHORT_HIGH_TONEjLOW_TONEiRISING_TONEyMAfDANTAYALANjIGIT_EIGHTfFIVE
  dOUReNINEeONEdSEVENeIXdTHREEeWOdZEROjOROME_SIGNlEXCLAMATION_MARKqHIGH_TONE_APOSTROPHEuLAJANYALAN
  jETTER_AbBAcCHAdDAaGBASINNAkEaEcFAcGBAdHAcIbJAbONA_CHAdJAcRAhKAcLAcMAcNaAa_WOLOSOiYAa_WOLOSOkOaO
  cPAcRAbRAdSAcTAcUbWAcYAiOW_TONE_APOSTROPHEtSYMBOL_GBAKURUNENkOO_DENNENqTAMAN_SIGNnLbNBSP
  eO_BICYCLEShREAK_HEREkENTRYa_SIGNkMOBILE_PHONESnONE_UNDER_EIGHTEEN_SYMBOLzPEDESTRIANSkIRACY
  gSMOKING_SYMBOLp-BREAK_SPACEmMINAL_DIGIT_SHAPESqSMA_SIGNkN-BREAKING_HYPHENpPOTABLE_WATER_SYMBOL
  vFORKINGiRaDIC_MARK_SIGNnMAL_SUBGROUP_OFa_OR_EQUAL_TOzcTH_EAST_AND_SOUTH_WEST_ARROWtRROW
  a_AND_SOUTH_EAST_ARROWuCROSSING_NORTH_WEST_ARROWqSOUTH_EAST_ARROWzWITH_HOOKpBLACK_ARROW
  lDOUBLE_ARROWmPOINTING_BUDdLEAFeVINE_LEAFsSANS-SERIF_ARROWqTRIANGLE-HEADED_ARROWa_TO_BAR
  zdWHITE_ARROWqINDIC_FRACTION_ONE_EIGHTHgHALFeQUARTERhSIXTEENTHnTHREE_QUARTERSiSIXTEENTHS
  zPLACEHOLDER_MARKqQUANTITY_MARKkRTER_MARKmRUPEE_MARKqWEST_AND_SOUTH_EAST_ARROWtRROW
  a_AND_NORTH_EAST_ARROWuCROSSING_NORTH_EAST_ARROWzTO_CORNERgLONG_BARlWITH_HOOKpBLACK_ARROW
  lDOUBLE_ARROWmPOINTING_BUDdLEAFeVINE_LEAFsSANS-SERIF_ARROWqTRIANGLE-HEADED_ARROWa_TO_BAR
  zdWHITE_ARROWrEAST-POINTING_AIRPLANEzSEcT_A_SUBSET_OFhPERSET_OFmLMOST_EQUAL_TOoN_ELEMENT_OF
  mSYMPTOTICALLY_EQUAL_TOxCHECK_MARKkEQUAL_TOfIVALENT_TOnGREATER-THANmIDENTICAL_TOmLESS-THAN
  jNORMAL_SUBGROUP_OFa_OR_EQUAL_TOzfPARALLEL_TOlSIGNdQUARE_IMAGE_OF_OR_EQUAL_TO
  uORIGINAL_OF_OR_EQUAL_TOzfTILDEeRUEfCHED_LEFT_SEMICIRCLE_WITH_THREE_DOTS
  zfOWER_RIGHT-SHADOWED_WHITE_RIGHTWARDS_ARROWzsRIGHT_SEMICIRCLE_WITH_THREE_DOTS
  zhUPPER_RIGHT-SHADOWED_WHITE_RIGHTWARDS_ARROWzxEa_PADbGEfBOOKa_WITH_DECORATIVE_COVERzeULaL
  cMBER_EIGHTEEN_FULL_STOPrLEVEN_FULL_STOPqFIFTEEN_FULL_STOPqOURTEEN_FULL_STOPsNINETEEN_FULL_STOP
  sSEVENTEEN_FULL_STOPsIGNcXTEEN_FULL_STOPrTEN_FULL_STOPmHIRTEEN_FULL_STOPrWELVE_FULL_STOP
  nNTY_FULL_STOPuERO_SIGNjSHU_CHARACTER-1B170b1b2b3b4b5b6b7b8b9bAbBbCbDbEbFc80b1b2b3b4b5b6b7b8b9bA
  bBbCbDbEbFc90b1b2b3b4b5b6b7b8b9bAbBbCbDbEbFcA0b1b2b3b4b5b6b7b8b9bAbBbCbDbEbFcB0b1b2b3b4b5b6b7b8b9
  bAbBbCbDbEbFcC0b1b2b3b4b5b6b7b8b9bAbBbCbDbEbFcD0b1b2b3b4b5b6b7b8b9bAbBbCbDbEbFcE0b1b2b3b4b5b6b7b8
  b9bAbBbCbDbEbFcF0b1b2b3b4b5b6b7b8b9bAbBbCbDbEbFd200b1b2b3b4b5b6b7b8b9bAbBbCbDbEbFc10b1b2b3b4b5b6
  b7b8b9bAbBbCbDbEbFc20b1b2b3b4b5b6b7b8b9bAbBbCbDbEbFc30b1b2b3b4b5b6b7b8b9bAbBbCbDbEbFc40b1b2b3b4b5
  b6b7b8b9bAbBbCbDbEbFc50b1b2b3b4b5b6b7b8b9bAbBbCbDbEbFc60b1b2b3b4b5b6b7b8b9bAbBbCbDbEbFc70b1b2b3b4
  b5b6b7b8b9bAbBbCbDbEbFc80b1b2b3b4b5b6b7b8b9bAbBbCbDbEbFc90b1b2b3b4b5b6b7b8b9bAbBbCbDbEbFcA0b1b2b3
  b4b5b6b7b8b9bAbBbCbDbEbFcB0b1b2b3b4b5b6b7b8b9bAbBbCbDbEbFcC0b1b2b3b4b5b6b7b8b9bAbBbCbDbEbFcD0b1b2
  b3b4b5b6b7b8b9bAbBbCbDbEbFcE0b1b2b3b4b5b6b7b8b9bAbBbCbDbEbFcF0b1b2b3b4b5b6b7b8b9bAbB
  pITERATION_MARKsT_AND_BOLTlYIAKENG_PUACHUE_HMONG_CIRCLED_CAkDIGIT_EIGHTfFIVEdOUReNINEeONEdSEVEN
  eIXdTHREEeWOdZEROkLETTER_AaAcCAcDAbLAdEaEcFAcGAcHAaHdIbKAcLAcMAbLAdNAbCAcKAcPAbLAdQAcRAcTAbSAcXA
  dYAdOaOcPAbLAdQAcRAbRAdSAcTAbSAcXAdUbVAcWbXAbYAdYAcZAiOGOGRAM_NYAJnSIGN_FOR_ANIMALgINVERTEBRATE
  mLOCATIONiPERSONgTHINGjXW_XWjYLLABLE_LENGTHENERtTONE-BbDbGbJbMbSbVzeOBJECT_REPLACEMENT_CHARACTER
  zbLIQUE_ANGLE_OPENING_DOWNeUPqHYPHENmSERVER_EYE_SYMBOLsCR_AMOUNT_OF_CHECKpBELT_BUCKLEkOW_TIE
  gRANCH_BANK_IDENTIFICATIONzbCHAIReUSTOMER_ACCOUNT_NUMBERxDASHdOUBLE_BACKSLASHqFORKeHOOK
  eINVERTED_FORKpTAGONAL_SIGNlOPUSgDENdFFICE_BUILDINGoGHAM_FEATHER_MARKmLETTER_AILMeBEITHfCEIRTeOLL
  eDAIReEABHADHfDHADHfMHANCHOLLlFEARNfGORTeIFINdODHADHhLUISeMUINeNGEADALgIONeONNcRcPEITHfRUISeSAIL
  dTRAIFgTINNEfUATHdILLEANNhRjREVERSED_FEATHER_MARKvSPACE_MARKoONEKfHM_SIGNhIL_DRUMhK_HAND_SIGN
  lL_CHIKI_AHADeDIGIT_EIGHTfFIVEdOUReNINEeONEdSEVENeIXdTHREEeWOdZEROkGAAHLAA_TTUDDAAGqLETTER_AAJbK
  bMbWcGbLbNGcTcEDDcNbPbRRdIHbNYcRbScLAaAcEbIbObUcOBbHbTTcVcUCbDbNNcYjMU_TTUDDAGi-GAAHLAA_TTUDDAAG
  tPHAARKAAhUNCTUATION_DOUBLE_MUCAADnMUCAADsRELAAmD_CHINESE_HOOK_MARKjITERATION_MARK
  wHUNGARIAN_CAPITAL_LETTER_AaAbKbMBcNDdCLOSE_EhEaBbCaHbScDbEbFbGaYcHbJbKbLaYcMaPcNaCbT
  a-SHAPED_SIGNnYcPbRbSaZcTaYcVbZaSdIaIcNIKOLSBURG_OEcUEnOaEEcOcRUDIMENTA_OEcUEmSHORT_ERiUaNKcSbU
  rNUMBER_FIFTYdVEeONEa_HUNDREDhTHOUSANDmTENkSMALL_LETTER_AaAbKbMBcNDdCLOSE_EhEaBbCaHbScDbEbFbGaYcH
  bJbKbLaYcMaPcNaCbTa-SHAPED_SIGNnYcPbRbSaZcTaYcVbZaSdIaIcNIKOLSBURG_OEcUEnOaEEcOcRUDIMENTA_OEcUE
  mSHORT_ERiUaNKcSbUzITALIC_LETTER_AbBEcCHEdDEcEaFbKScLbMbNbRaScSaHbSdHEcIaIcKAbEbHEcUcNORTHERN_TSE
  mObPEbHEdSHEcOUTHERN_TSEmTEbHEdUaUcVEcYEcZEjNUMERAL_FIFTYdVEeONEdTENsKEYdNORTH_ARABIAN_LETTER_AIN
  cLEFeBEHdDADbLdES-1b2b3eFEHdGEEMdHAINfHAHcEHdKAFcHAHeLAMdMEEMeNOONeQAFdREHdSADdTAHcEHcHALcEHeWAW
  dYEHdZAHbINlNUMBER_ONEdTENcWENTYzcPERMIC_LETTER_ANcBURdCHERYfDOIcZHOIdITAfEaFcGAIdHAcIaAbEcKOKE
  eLEIdMENOEfNENOEfOaOcPEEIeREIdSHCHOOIfOOIeIIdTAIcSIUeUbVERcOOIeYAaTcERaIbUdRYcUcZATAdHOI
  pSIAN_NUMBER_HUNDREDhONEdTENcWENTYeOkSIGN_AaURAMAZDAAa-2cHAmBAaGAdUUMISHhCAcDAaHYAAUSHa-2kIbUcFA
  cGAbUcHAcIbJAbIcKAbUcLAcMAbIbUcNAbUcPAcRAbUcSAbHAcSAdTAbHAcUcUbVAbIcXAbSHAAYATHIYAmYAcZA
  hWORD_DIVIDERqONAL_COMPUTERrSOGDIAN_FRACTION_ONE_HALFrLETTER_ALEPHdTERNATE_AYINnYINeBETH
  eFINAL_ALEPHfBETHeHEcNUNa_WITH_VERTICAL_TAILwSADHEa_WITH_VERTICAL_TAILyTAWa_WITH_VERTICAL_TAIL
  zdGIMELfHEaTHeKAPHeLAMEDHgMEMdNUNdPEcRESH-AYIN-DALETHqSADHEdMEKHfHINeTAWdWAWdYODHeZAYIN
  lIGATURE_AYIN-DALETHuNUMBER_FIVEdOUReONEa_HUNDREDlTENcHIRTYeREEeWENTYeOqUTH_ARABIAN_LETTER_ALEF
  dYNdBETHeDALETHfHADHEdLETHhFEcGHAYNeIMELfHEaTHeKAPHdHETHfLAMEDHgMEMdNUNdQOPHeRESHeSADHEdMEKHeT
  cHINeTAWcETHdHAWcETHfWAWdYODHeZAYNlNUMBER_FIFTYfONEhERIC_INDICATORzgTURKIC_LETTER_ORKHON_AaBbDbEB
  bDbGbKbLbNbRbSbTbYcGbLbNbQbRbSaHcTbYcBASHeECbLTcMbNCbGbTbYcPbSHcZcIaCbQcOaEaKcPbQbTjYENISEI_AaBbD
  bEaBbGbKbNaGcTbYcGbLbNGcQbRbSHcTbYcEaCbNCbTbYcSHcZcIaQcOEaKcQyUYGHUR_COMBINING_DOT_ABOVEfBELOW
  jTWO_DOTS_ABOVEfBELOWyLETTER_ALEPHfBETHeFINAL_HETHkGIMEL-HETHkKAPHeLAMEDHfESHeMEMdNUNdPEcRESH
  eSADHEdMEKHfHINeTAWdWAWdYODHeZAYINmPUNCTUATION_BARdFOUR_DOTSjTWO_BARSeDOTSzdER_ADULTfMANdWOMAN
  jIVEeM_SYMBOLiN_WITH_EXCLAMATION_MARK_WITH_LEFT_RIGHT_ARROW_ABOVEzzCOMING_AUTOMOBILEkBUS
  dFIRE_ENGINElPOLICE_CARkTAXIlE_BUTTON_MOUSEmDOT_LEADERgOVER_TWO_DOTS_PUNCTUATIONzf-PIECE_SWIMSUIT
  qIONePEN_BOOKcXdCENTRE_ASTERISKiBLACK_STARkCROSSfTEARDROP-SPOKED_ASTERISKzgFILE_FOLDERkOLDER
  gHANDS_SIGNkLOCKeMAILBOX_WITH_LOWERED_FLAGmRAISED_FLAGySUBSETePERSET
  j-CIRCUIT-OUTPUT_H-TYPE_SYMBOLnL-TYPE_SYMBOLzdOUTLINED_RIGHTWARDS_ARROWzcRATING_SYSTEM_COMMAND
  wHIUCHUShPOSITIONiTICAL_DISCa_ICONnON_KEYjR_WITH_DOT_INSIDEqANGE_BOOKeHEARThUTANhIGINAL_OF
  iYA_AI_LENGTH_MARKnU_LENGTH_MARKoDIGIT_EIGHTfFIVEdOUReNINEeONEdSEVENeIXdTHREEeWOdZERO
  kFRACTION_ONE_EIGHTHgHALFeQUARTERhSIXTEENTHnTHREE_QUARTERSiSIXTEENTHSzISSHARgLETTER_AaAbIbUcBAbHA
  dCAbHAdDAbDAbHAdHAdEbGAbHAdHAcIaIcJAbHAdKAbHAdLAbLAdMAcNAbGAcNAcYAdObPAbHAdRAbHAcRAdSAbHAcSAdTA
  bHAcTAbHAeUaUcVAbOCALIC_LaLcRaRkWAcYAbYAkSIGN_ANUSVARAhVAGRAHAiCANDRABINDUlNUKTAfOVERLINEiVIRAMA
  eSARGAmVOWEL_SIGN_AAbIbUcEbIaIcObUaUcVOCALIC_LaLcRaRzNATE_LEFT_PARENTHESISqRIGHT_PARENTHESIS
  wTHODOX_CROSSnSAGE_CAPITAL_LETTER_AaHbIaNdBRAdCHAdDHAdEaHCHAdKAcPAcTAbSAeINdGHAdHAbYAdIbKAbHAcYA
  dLAcMAcNAcOaINdPAcSAbHAdTAbSAbHAeUbWAcZAbHAsSMALL_LETTER_AaHbIaNdBRAdCHAdDHAdEaHCHAdKAcPAcTAbSA
  eINdGHAdHAbYAdIbKAbHAcYAdLAcMAcNAcOaINdPAcSAbHAdTAbSAbHAeUbWAcZAbHAuCbMANYA_DIGIT_EIGHTfFIVEdOUR
  eNINEeONEdSEVENeIXdTHREEeWOdZEROkLETTER_AaAbLEFeBAcCAYNeDEELdHAdEaEcFAcGAcHAcIbJAcKAAFdHAdLAAN
  eMIINeNUUNeOaOcQAAFeRAcSAbHIINfTAcUbWAWdXAcYAqTTERcOMAN_SIYAQ_ALTERNATE_NUMBER_EIGHTfFIVEdOUR
  a_HUNDREDmNINEeSEVENeIXa_HUNDREDlTENa_THOUSANDlHREEeWOa_THOUSANDzeFRACTION_ONE_HALFeSIXTH
  sMARRATANiNUMBER_EIGHTa_HUNDREDhTHOUSANDjYa_THOUSANDpFIFTYa_THOUSANDmVEa_HUNDREDhTHOUSANDmORTY
  a_THOUSANDmURa_HUNDREDhTHOUSANDnNINEa_HUNDREDhTHOUSANDjTYa_THOUSANDpONEa_HUNDREDhTHOUSANDmSEVEN
  a_HUNDREDhTHOUSANDjTYa_THOUSANDpIXa_HUNDREDhTHOUSANDjTYa_THOUSANDoTENa_THOUSANDlHIRTYa_THOUSAND
  nREEa_HUNDREDhTHOUSANDnWENTYa_THOUSANDnOa_HUNDREDhTHOUSANDzhUNCE_SIGNiTBOX_TRAYiLINED_BLACK_STAR
  kGREEK_CROSSlLATIN_CROSSlWHITE_STARsVERHEATED_FACElLAPaPING_BLACK_SQUARESnWHITE_AND_BLACK_SQUARES
  rSQUARESuINEhWLcXbYSTERgPACKAGEfDaDING_CHARACTERpGEa_FACING_UPjWITH_CIRCLED_TEXTlURLkRbScODA
  eHAWH_HMONG_CLAN_SIGN_FAJdHAMbWJeKHABdOOcWMdLAUJdISdMUASePHABeTHOJdSABcHEEJeWBeVAJcWJdXYOOJfYAJ
  cEEGnONSONANT_AUcCAUcHAUeHAUcLAUdNAUeLAUdMAUdNAUcCHAUeKAUdLAUdTHAUdSAUfPLHAUfQHAUeRAUdVAUdXAUdYAU
  nDIGIT_EIGHTfFIVEdOUReNINEeONEdSEVENeIXdTHREEeWOdZEROkMARK_CIM_HOMdKEScHAVeSObUAMeTAUMdUB
  mNUMBER_HUNDRED_MILLIONSjSiMILLIONSiTEN_BILLIONSiTHOUSANDSkSdRILLIONSqSIGN_AVcCIM_CHEEM
  eUAM_TSHOOJlHAIS_LUS_NTOG_NTOGsNRES_TOSiPUB_DAWBiTSOV_ROGhXWVa_CHWVnHLIcNUBeIB_YAMgLOSdMEEJ_SUAB
  eTSEEBjUSdNQIGdTUJeTAUcHIRD-STAGE_HLIoXHEEJ_CEEVlVOS_FEEMeLUBdNRUAeSEEVeTHIABdOMdSHAB_CEEBoXAUS
  dIABdYEEM_FAIBeNTXIVfRHOdTOVhOOeZWJ_THAJnVOWEL_KAABbVcBbIBbVcUBbVcVbWBbVdEBbEBbVcVcIABbVcBbVcOB
  bOBbVcVcUABbVcBbVcWBbVuLLASdM_BRANCHgDOWN_HANDjTREEeUP_HANDiS_UP_TOGETHER
  nYRENE_LEFT-POINTING_FLEURONtTTER_ALEPHeYINeBETHeDALETHgFINAL_NUNjGIMELfHEaTHeKAPHeLAMEDHgMEMdNUN
  dPEcQOPHeRESHeSADHEdMEKHfHINeTAWcETHeWAWdYODHeZAYINmNUMBER_FIVEdOUReONEdTENcHREEeWENTYeO
  kRIGHT-POINTING_FLEURONzfNCAKESfDA_FACEiPERCLIPhRACHUTEfGRAPH_SEPARATORkOScUS_MARKmLLEL_TO
  cWITH_HORIZONTAL_STROKErTILDE_OPERATORzENTHESIZED_DIGIT_EIGHTfFIVEdOUReNINEeONEdSEVENeIXdTHREEeWO
  jHANGUL_CHIEUCHa_AiIEUCa_AbUhHIEUHa_AhIEUNGa_AhKHIEUKHa_AiIYEOKa_AiMIEUMa_AhNIEUNa_AhPHIEUPHa_A
  iIEUPa_AhRIEULa_AhSIOSa_AgTHIEUTHa_AiIKEUTa_ApIDEOGRAPH_ALLIANCEiCALLdONGRATULATIONoEARTHeIGHT
  eNTERPRISEkFESTIVALhINANCIALhREcVEdOUReHAVEeLABORfMETALeOONeNAMEdINEeONEdREACHdPRESENThSOURCEfT
  eSELFcVENeIXcOCIETYgPECIALgTOCKdUDYeUNbPERVISEjTENcHREEeWOdWATEReOODoKOREAN_CHARACTER_O_HUdJEON
  wLATIN_CAPITAL_LETTER_AbBbCbDbEbFbGbHbIbJbKbLbMbNbObPbQbRbSbTbUbVbWbXbYbZqSMALL_LETTER_AbBbCbDbE
  bFbGbHbIbJbKbLbMbNbObPbQbRbSbTbUbVbWbXbYbZuNUMBER_EIGHTEENhLEVENgFIFTEENgOURTEENiNINETEEN
  iSEVENTEENiIXTEENhTENcHIRTEENhWELVEdNTYyROTdT_ALTERNATION_MARKrIAL_DIFFERENTIALmLINE_BACKWARD
  iDOWNeFORWARDhUPiLY-RECYCLED_PAPER_SYMBOLzcNERSHIP_SIGNmY_POPPERkSSED_SYMBOLiNGER_SHIP
  kIVE-PULL-DOWN-OUTPUT_SYMBOLsUP-OUTPUT_SYMBOLzPORT_CONTROLoU_CIN_HAU_GLOTTAL_STOPa_FINALfVARIANT
  uLETTER_AbBAcCAbHAdDAcEbFAbINAL_KbLbMbNaGcPbTbWbYhGAcHAcIaAcKAbHAdLAcMAcNAbGAdObPAbHAdRAcSAcTAbHA
  dUaAcVAcZAiOW-FALLING_TONEa_FINALfLONGa_FINALzcMID-LEVEL_TONEa_FINALfLONG_FINALzRISING_TONE
  a_FINALfLONGa_FINALwSANDHI_GLOTTAL_STOPa_FINALsTONEa_FINALfLONGa_FINALzhW_PRINTSjDFbIcEACE_SYMBOL
  iHbOCKeNUTSeRcDESTRIANiN_OVER_STAMPED_ENVELOPEwCILdGUINeSIVE_FACEjTAGRAMhOPLE_HUGGING
  mR_MILLE_SIGNkSIGNeTEN_THOUSAND_SIGNsCENT_SIGNjFORMING_ARTSmMANENT_PAPER_SIGNrPENDICULARa_WITH_S
  rSEVERING_FACEmON_BOWING_DEEPLYnCLIMBINGiDOING_CARTWHEELpFROWNINGiIN_LOTUS_POSITIONoSTEAMY_ROOM
  oRAISING_BOTH_HANDS_IN_CELEBRATIONziWITH_BALLdLOND_HAIRkCROWNfFOLDED_HANDSmHEADSCARFjPOUTING_FACE
  sAL_COMPUTERnPECTIVEjSETA_SIGNiO_SIGNhTRI_DISHjHAGS-PA_DOUBLE_HEAD_MARKqLETTER_AaLTERNATE_YA
  lSPIRATED_FAmBAcCAaNDRABINDUkHAdDAbDAcZAdEaEcFAcGAbGAdHAcIbJAcKAbHAdLAcMAcNAbGAcNAcYAdObPAbHAdQA
  cRAcSAbHAcMALL_AhTAbHAcSAbHAdTAbHAeUbVOICED_HAeLESS_SHAnWAcXAcYAcZAbHAkMARK_DOUBLE_SHADlSHAD
  jSINGLE_HEAD_MARKpUBJOINED_LETTER_RAcWAcYArPERFIXED_LETTER_RAzbISTOS_DISC_SIGN_ARROWfBEEaHIVE
  gOOMERANGhWcULLS_LEGjCAPTIVEfRPENTRY_PLANEnTcHILDeLUBdOLUMNeMBaINING_OBLIQUE_STROKEyDOLIUMeVE
  eEAGLEfFLUTEfGAUNTLEThRATERgHELMETfIDEdORNeLIDbLYeMANACLESgTTOCKhOX_BACKhPAPYRUSgEDESTRIAN
  jLANE_TREEiUMED_HEADlRAMcOSETTEhSAWcHIELDdPdLINGeMALL_AXEiTRAINERiTATTOOED_HEADmIARAeUNNYfVINE
  eWAVY_BANDiOMANwILIPPINE_DOUBLE_PUNCTUATIONsSINGLE_PUNCTUATIONzcOENICIAN_LETTER_AINcLFdBETdDELT
  eGAMLeHEaTdKAFdLAMDeMEMdNUNdPEcQOFdROSHeSADEdEMKdHINeTAUcETdWAUdYODdZAIkNUMBER_ONEa_HUNDREDlTEN
  cHREEeWENTYeOkWORD_SEPARATORwLUSfICKaUP_TRUCKkEbGa_FACEeNOSEgLCROW_SIGNjE_OF_POOiLcNATA
  dCHED_FINGERSkING_HANDkE_DECORATIONlAPPLEgWHEEL_STARlSCESdTOLeTCHFORKa_WITH_TEE_TOPvLACARD
  dE_OF_INTEREST_SIGNnWORSHIPnNCK_CONSTANTa_OVER_TWO_PIyYGROUND_SLIDEmING_CARD_ACE_OF_CLUBS
  fDIAMONDSiHEARTSgSPADESnBACKdLACK_JOKERlEIGHT_OF_CLUBSfDIAMONDSiHEARTSgSPADESpFIVE_OF_CLUBS
  fDIAMONDSiHEARTSgSPADESnOOLcUR_OF_CLUBSfDIAMONDSiHEARTSgSPADESoJACK_OF_CLUBSfDIAMONDSiHEARTS
  gSPADESoKING_OF_CLUBSfDIAMONDSiHEARTSgSPADESnNIGHT_OF_CLUBSfDIAMONDSiHEARTSgSPADESqNINE_OF_CLUBS
  fDIAMONDSiHEARTSgSPADESoQUEEN_OF_CLUBSfDIAMONDSiHEARTSgSPADESpRED_JOKERjSEVEN_OF_CLUBSfDIAMONDS
  iHEARTSgSPADESoIX_OF_CLUBSfDIAMONDSiHEARTSgSPADESnTEN_OF_CLUBSfDIAMONDSiHEARTSgSPADES
  mHREE_OF_CLUBSfDIAMONDSiHEARTSgSPADESoRUMP-1a0b1b2b3b4b5b6b7b8b9c2a0b1c3b4b5b6b7b8b9gWO_OF_CLUBS
  fDIAMONDSiHEARTSgSPADESnWHITE_JOKERwDbUaNGEReS_SIGNa_ABOVE_EQUALS_SIGNrIN_LEFT_HALF_CIRCLE
  qRIGHT_HALF_CIRCLErTRIANGLElWITH_BLACK_TRIANGLEoCIRCUMFLEX_ACCENT_ABOVExDOT_BELOW
  jSMALL_CIRCLE_ABOVErUBSCRIPT_TWOnTILDE_ABOVEfBELOWw-MINUS_SIGNmTOa_FORM_FIVEdOUReTHREEeWOnM
  bOCKET_CALCULATORpLICE_CARaS_REVOLVING_LIGHTuOFFICERmODLEeP_DIRECTIONAL_FORMATTINGkISOLATEuCORN
  fRTABLE_STEREOnSEIDONfITION_INDICATORpTAL_HORNeMARKa_FACEmBOXfT_OF_FOODiABLE_WATER_SYMBOLqTO
  dTED_PLANTkUCHcLTRY_LEGiND_SIGNhRING_LIQUIDlTING_CAT_FACEiFACEkWER_ON_SYMBOLh-OFF_SYMBOL
  nSLEEP_SYMBOLlYMBOLlRAYER_BEADSkECEDESa_ABOVE_ALMOST_EQUAL_TOpEQUALS_SIGNlNOT_ALMOST_EQUAL_TO
  pEQUAL_TOmSINGLE-LINE_EQUALS_SIGNlNOT_EQUAL_TOzfBUT_NOT_EQUIVALENT_TOvOR_EQUAL_TOfIVALENT_TO
  qUNDER_RELATIONuGNANT_MANdPERSONgWOMANlSCRIPTION_TAKEnENTATION_FORM_FOR_VERTICAL_COLONdMMA
  fEM_DASHgN_DASHgXCLAMATION_MARKqHORIZONTAL_ELLIPSIStIDEOGRAPHIC_COMMAfFULL_STOP
  vLEFT_ANGLE_BRACKETnBLACK_LENTICULAR_BRACKETyCORNER_BRACKETnURLY_BRACKETnDOUBLE_ANGLE_BRACKET
  uPARENTHESISlSQUARE_BRACKEToTORTOISE_SHELL_BRACKETwWHITE_CORNER_BRACKEToLENTICULAR_BRACKET
  zdOW_LINEiQUESTION_MARKnRIGHT_ANGLE_BRACKETnBLACK_LENTICULAR_BRACKETyCORNER_BRACKETnURLY_BRACKET
  nDOUBLE_ANGLE_BRACKETuPARENTHESISlSQUARE_BRACKEToTORTOISE_SHELL_BRACKETwWHITE_CORNER_BRACKET
  oLENTICULAR_BRACKETeKCETzfSEMICOLONjTWO_DOT_LEADERoWAVY_LOW_LINEzqTZELeVIOUS_PAGElIMEcNCEaSS
  eT_SCREEN_SYMBOLoERa_ICONjVACY_MESSAGEkTE_USE_ONEdTWOe-1b2lOBING_CANEjHIBITED_SIGNmJECTIVE
  hPERTY_LINEjORTIONaAL_TOmSERPINAjSALTER_PAHLAVI_FOUR_DOTS_WITH_CROSSfDOTsLETTER_ALEPHfBETHeDALETH
  gGIMELfHEaTHeKAPHeLAMEDHgMEM-QOPHiNUNdPEcSADHEdMEKHfHINeTAWdWAW-AYIN-RESHnYODHeZAYINmNUMBER_FOUR
  eONEa_HUNDREDlTENcHREEeWENTYeOkSECTION_MARKmTURNED_SECTION_MARKzjU1b2bBLIC_ADDRESS_LOUDSPEAKER
  yNCTUATION_SPACElS_ELEVATUS_MARKtRPLE_HEARTjSEdSHPINfT_LITTER_IN_ITS_PLACE_SYMBOL
  zfQUADRANT_LOWER_LEFTeRIGHTlUPPER_LEFTa_AND_LOWER_LEFT_AND_LOWER_RIGHTuRIGHT
  lUPPER_RIGHT_AND_LOWER_LEFTeRIGHTzlRIGHTa_AND_LOWER_LEFTa_AND_LOWER_RIGHTzvUPLE_INTEGRAL_OPERATOR
  rPRIMEmRTER_NOTEjTERNION_INTEGRAL_OPERATORzbESTION_EXCLAMATION_MARKqMARKfED_EQUAL_TOrINCUNX
  gOTATION_MARKoRABBITa_FACEjCCOONeING_CARdMOTORCYCLEpDICAL_SYMBOL_BOTTOMrOa_BUTTONhACTIVE_SIGN
  oILWAY_CARdTRACKkNaBOWeSED_BACK_OF_HANDmCOMMAfDOTaTED_INTERPOLATION_MARKERzcFISTeHAND
  a_WITH_FINGERS_SPLAYEDpPART_BETWEEN_MIDDLE_AND_RING_FINGERSzvINTERPOLATION_MARKERuMC_SIGNgD_SIGN
  gR_SIGNhSQUARElMbTaIOdZOReECEIPTeORD_SEPARATORnREATIONAL_VEHICLErYCLED_PAPER_SYMBOL
  pING_SYMBOL_FOR_GENERIC_MATERIALSrTYPE-1_PLASTICSk2_PLASTICSk3_PLASTICSk4_PLASTICSk5_PLASTICS
  k6_PLASTICSk7_PLASTICSzjD_APPLEfGIFT_ENVELOPEpFERENCE_MARKmGIONAL_INDICATOR_SYMBOL_LETTER_AbBbCbD
  bEbFbGbHbIbJbKbLbMbNbObPbQbRbSbTbUbVbWbXbYbZzfSTERED_SIGNnJANG_CONSONANT_SIGN_HbNaGcRqLETTER_AbBA
  cCAcDAcGAcHAcJAcKAcLAcMAbBAdNAbDAcGAbGAdYAbJAePAcRAcSAcTAcWAcYAjSECTION_MARKmVIRAMAfOWEL_SIGN_AI
  bUcEaAbUcIbObUrLIEVED_FACElMINDER_RIBBONnPLACEMENT_CHARACTERtSPONSEfTRICTED_LEFT_ENTRY-1b2sOOM
  gTURN_LEFTeRIGHTfSYMBOLlVERSE_CHECKER_BOARDnINDEXfLIGHT_FOUR_POINTED_PINWHEEL_STARzfNE_FEED
  jSOLIDUSa_OPERATORiPRECEDING_SUBSETqWITH_HORIZONTAL_STROKEzfTILDE_OPERATOR_ABOVE_LEFTWARDS_ARROW
  pRIGHTWARDS_ARROWznD_ANGLEa_WITH_UNDERBARtCOMMAfDOUBLE_PRIMEa_QUOTATION_MARKuSTROKE_NOT_SIGN
  wEMPTY_SETjFORKED_PARAGRAPHOSsHAND_WITH_MIDDLE_FINGER_EXTENDEDzhNOT_SIGNiPILCROW_SIGNlRIME
  fQUESTION_MARKnRAISED_HAND_WITH_FINGERS_SPLAYEDzgIGHT_ANGLEkOTATED_FLORAL_HEART_BULLET
  zcSANS-SERIF_CAPITAL_LtEMICOLONjTHUMBS_DOWN_SIGNjUP_SIGNnILDEa_EQUALSlRIPLE_PRIMEmVICTORY_HAND
  sOLVING_HEARTSpHINOCEROSjIaAL_SIGNhBBONa_ARROW_DOWN_LEFTeRIGHTkLEFT_DOWNeUPhRIGHT_DOWNeUPiUP_LEFT
  eRIGHTtCE_BALLeCRACKERkFLEdGHT_AND_LOWER_ONE_EIGHTH_BLOCKwUPPER_ONE_EIGHTH_BLOCKyGER_BUBBLEjLE
  a_BRACKETa_WITH_DOTqDOTTED_SUBSTITUTION_MARKERzbSUBSTITUTION_MARKERtVARIANT_WITH_SQUAREtWITH_ARC
  dDOWNWARDS_ZIGZAG_ARROWzhRC_GREATER-THAN_BRACKETwROW_WITH_CIRCLED_PLUSmSMALL_CIRCLE
  xBLACK_LENTICULAR_BRACKETsTORTOISE_SHELL_BRACKETzdCEILINGgORNER_BRACKETnURLY_BRACKETa_LOWER_HOOK
  kMIDDLE_PIECEmUPPER_HOOKyDOTTED_SUBSTITUTION_BRACKETzUBLE_ANGLE_BRACKETmRROW_WITH_ROUNDED_HEAD
  xPARENTHESISlQUOTATION_MARKoWIGGLY_FENCEtFISH_TAILhVE_EIGHTHS_BLOCKrLOORfHALF_BLACK_CIRCLEgSTAR
  iOCKfFOLDERgMEDIUM_SHADEmRUNNING_MANoND_TELEPHONE_RECEIVERxLOW_PARAPHRASE_BRACKET
  wNORMAL_FACTOR_SEMIDIRECT_PRODUCTzhONE_EIGHTH_BLOCKmQUARTER_BLOCKqPEN_SQUARED_DOTpUTER_JOIN
  kPARENTHESISa_EXTENSIONjLOWER_HOOKkUPPER_HOOKwRAISED_OMISSION_BRACKETxS-SHAPED_BAG_DELIMITER
  vEMIDIRECT_PRODUCTqVEN_EIGHTHS_BLOCKsIDEWAYS_U_BRACKETqNGLE_QUOTATION_MARKuPEAKER
  a_WITH_ONE_SOUND_WAVEoTHREE_SOUND_WAVESzcECH_BUBBLEmQUARE_BRACKETa_EXTENSIONjLOWER_CORNER
  mUPPER_CORNERmWITH_DOUBLE_STROKEnQUILLfSTROKEgTICK_IN_BOTTOM_CORNERnTOP_CORNERsUNDERBAR
  zcUBSTITUTION_BRACKETuTACKdHIRD_WHITE_RIGHT_POINTING_INDEXzfOUGHT_BUBBLEmREE_EIGHTHS_BLOCK
  nQUARTERS_BLOCKtORTOISE_SHELL_BRACKETvRANSPOSITION_BRACKETtIANGLEa_ABOVE_LEFT_TRIANGLE
  wULAR_ONE_QUARTER_BLOCKzdVERTICAL_BAR_WITH_QUILLnOX_LINErWHITE_CORNER_BRACKETnURLY_BRACKET
  nLENTICULAR_BRACKETsPARENTHESISlSQUARE_BRACKEToTORTOISE_SHELL_BRACKETzcIGGLY_FENCE
  n-FACING_ARMENIAN_ETERNITY_SIGNwFISTeSVASTI_SIGNa_WITH_DOTSzdHANDED_INTERLACED_PENTAGRAM
  zcPOINTING_ANGLE_BRACKETnCURVED_ANGLE_BRACKETuDOUBLE_ANGLE_QUOTATION_MARKzcMAGNIFYING_GLASS
  zSHADED_WHITE_RIGHTWARDS_ARROWzdIDE_ARC_CLOCKWISE_ARROWyTO-LEFT_EMBEDDINGjISOLATEhMARKeOVERRIDE
  rHAND_INTERIOR_PRODUCTvWARDS_ARROWa_ABOVE_ALMOST_EQUAL_TOpREVERSE_ALMOST_EQUAL_TOpTILDE_OPERATOR
  wSHORT_LEFTWARDS_ARROWvTILDE_OPERATORtND_UPPER_AND_LOWER_ONE_EIGHTH_BLOCKzlFROM_BAR
  a_TO_BLACK_DIAMONDzOVER_LEFTWARDS_ARROWuTHROUGH_GREATER-THANmSUPERSETiXiO_BARcLACK_DIAMOND
  qWITH_CORNER_DOWNWARDSqDOTTED_STEMjUBLE_VERTICAL_STROKEwEQUILATERAL_ARROWHEADvHOOK
  eLARGE_TRIANGLE_ARROWHEADxOOPeMEDIUM_TRIANGLE_ARROWHEADzNOTCHED_TAILmPLUS_BELOW
  kSMALL_EQUILATERAL_ARROWHEADvTRIANGLE_ARROWHEADxTROKEgTAILa_WITH_DOUBLE_VERTICAL_STROKE
  wVERTICAL_STROKEyIP_DOWNWARDSjUPWARDSlVERTICAL_STROKEv-TAILkBACK-TILTED_SHADOWED_WHITE_ARROW
  zgLACK_ARROWfCIRCLED_WHITE_ARROWyOTTOM_SHADED_WHITE_ARROWzCOMPRESSED_ARROWqDASHED_ARROW
  lOUBLE_ARROWa_FROM_BARiWITH_STROKEgVERTICAL_STROKEv-TAILkDASH_ARROWrFINGER-POST_ARROW
  qRONT-TILTED_SHADOWED_WHITE_ARROWziHANDcRPOON_OVER_LEFTWARDS_HARPOON
  wWITH_BARB_DOWN_ABOVE_LEFTWARDS_HARPOON_WITH_BARB_DOWNznBELOW_LONG_DASHpFROM_BARiTO_BARhWARDS
  jUP_ABOVE_LEFTWARDS_HARPOON_WITH_BARB_UPzeONG_DASHjRIGHTWARDS_HARPOON_WITH_BARB_DOWNzoFROM_BAR
  iTO_BARhWARDSyEAVY_ARROWfCOMPRESSED_ARROWwLEFT-SHADED_WHITE_ARROWxOPEN-HEADED_ARROWrPAIRED_ARROWS
  nQUADRUPLE_ARROWpRIGHT-SHADED_WHITE_ARROWxOCKETgSANS-SERIF_ARROWpQUARED_ARROWkIGGLE_ARROW
  oTOP_SHADED_WHITE_ARROWvRIANGLE_ARROWHEADk-HEADED_ARROWa_OVER_LEFTWARDS_TRIANGLE-HEADED_ARROW
  zlTO_BARgWITH_BOLD_SHAFTkDOUBLE_HORIZONTAL_STROKErVERTICAL_STROKEwHEAVY_SHAFTlLONG_TIP_DOWNWARDS
  jUPWARDSqMEDIUM_SHAFTmNARROW_SHAFTmVERY_HEAVY_SHAFTzcDASHED_ARROWmPAIRED_ARROWSzbPLE_ARROW
  fDASH_ARROWqWO_HEADED_ARROWn-HEADED_ARROW_FROM_BARiWITH_DOUBLE_VERTICAL_STROKEwTAIL
  a_WITH_DOUBLE_VERTICAL_STROKEwVERTICAL_STROKEyRIANGLE_ARROWHEADStVERTICAL_STROKE
  zbTRIPLE_DASH_ARROWzdWAVE_ARROWjHITE_ARROWa_FROM_WALLjWITHIN_TRIANGLE_ARROWHEADzvNGa_ABOVEfBUOY
  eEQUAL_TOiIN_EQUAL_TOlOPERATORiPOINTgED_PLANETjING_BELLkSING_DIAGONAL_CROSSING_FALLING_DIAGONAL
  qSOUTH_EAST_ARROWzpLEbIbMbOcOASTED_SWEET_POTATOsBOT_FACEiCKaETeLL_OF_PAPERjED-UP_NEWSPAPER
  oR_COASTERhSKATEiING_ON_THE_FLOOR_LAUGHINGzcMAN_AS_SIGNhCENTURIAL_SIGNoDENARIUS_SIGN
  mIMIDIA_SEXTULA_SIGNtUPONDIUS_SIGNoNUMERAL_EIGHTeLEVENgFIFTYa_EARLY_FORMkTHOUSANDmVEa_HUNDRED
  hTHOUSANDmOUReNINEeONEa_HUNDREDa_THOUSANDqTHOUSANDa_C_DqREVERSED_ONE_HUNDREDuSEVENeIXa_LATE_FORM
  nTENa_THOUSANDlHREEeWELVEeOlQUINARIUS_SIGNoSEMUNCIA_SIGNlSTERTIUS_SIGNnXTANS_SIGNiULA_SIGN
  lILIQUA_SIGNmUNCIA_SIGNoOSTERfSEaTTEfTATED_CAPITAL_QjFLORAL_HEART_BULLETtHEAVY_BLACK_HEART_BULLET
  yLIGHT_FOUR_POINTED_BLACK_CUSPzeWHITE_FOUR_POINTED_CUSPzeUND_PUSHPINhTARGEThED_SYMBOL_FOR_CAIdFU
  cLUcSHOUcUANGXIiXItWBOATgSbUBLE_SIGNiGBY_FOOTBALLmLE-DELAYEDkMI_DIGIT_EIGHTfFIVEdOUReNINEeONE
  dSEVENeIXdTHREEeWOjFRACTION_ONE_HALFeQUARTERhTHIRDjTWO_THIRDStNUMBER_EIGHT_HUNDREDiYgFIFTY
  dVE_HUNDREDlORTYdUR_HUNDREDmNINE_HUNDREDiTYgONE_HUNDREDlSEVEN_HUNDREDiTYgIX_HUNDREDiTYfTENcHIRTY
  eREE_HUNDREDmWENTYeO_HUNDREDvNIC_ARLAUG_SYMBOLnBELGTHOR_SYMBOLpCROSS_PUNCTUATIONrLETTER_AC_AdESC
  dLGIZ_EOLHXkNSUZ_AhBERKANAN_BEORC_BJARKAN_ByCaALCdEALCdNcWEORTHhDaAGAZ_DAEG_DlOTTED-LbNbPiEaAR
  cHWAZ_EH_EjNGcTHdFEHU_FEOH_FE_FnRANKS_CASKET_ACbESCeEHcIScOSqGaARcEBO_GYFU_GjRdHAEGL_HfGLAZ_H
  iICELANDIC-YRlNGaWAZfORcSAZ_IS_ISS_ImWAZ_EOHiJERAN_JhKaAUN_KcAfLAUKAZ_LAGU_LOGR_L
  rONG-BRANCH-AR_AEfHAGALL_HiMADR_MgOSS_OfYRoMANNAZ_MAN_MmNAUDIZ_NYD_NAUD_NrOaEbNbObPEN-PfS_O
  dTHALAN_ETHEL_OpPERTHO_PEORTH_PpQbRAIDO_RAD_REID_RqSHaORT-TWIG-AR_AeBJARKAN_BjHAGALL_HiMADR_M
  gNAUD_NgOSS_OfSOL_SfTYR_TfYRmIGEL_LONG-BRANCH-SOL_SwOWILO_ShTANeTHURISAZ_THURS_THORN
  tIWAZ_TIR_TYR_TpURUZ_UR_UjVbWaUNJO_WYNN_WmXbYaRcZiMULTIPLE_PUNCTUATIONuSINGLE_PUNCTUATION
  sTVIMADUR_SYMBOLsNERcING_SHIRT_WITH_SASHvPEE_SIGNiSSIAN_ASTROLOGICAL_SYMBOL_BINOVILEiNOVILE
  gQUINTILEiSENTAGONiTREDECILEjVIGINTILEzmS_IN_TRIANGLEmAFETY_PINdVESTjGITTARIUSjILBOAT
  gKE_BOTTLE_AND_CUPrLT_SHAKERhIREeUTING_FACElMARITAN_ABBREVIATION_MARKrLETTER_ALAFeBAAcITdDALATfFI
  cGAMANfINbTbYcKAAFeLABATfMIMdNUNdQUFdRISHeSHANdINGAAThTAAFdITcSAADIYhYUTdZENkMARK_DAGESH
  gEPENTHETIC_YUToINa-ALAFhNEQUDAAhOCCLUSIONnODIFIER_LETTER_EPENTHETIC_YUToIbSHORT_A
  xPUNCTUATION_AFSAAQfNGEDdNAAUfRKAANUgTMAAUgBAUdMELODIC_QITSAnNEQUDAAhQITSAfSHIYYAALAAjOF_MASHFAAT
  mTURUeZAEFdIQAArVOWEL_SIGN_AaAcEbIbLONG_AaAcEbIbUgOaVERLONG_AaAlSHORT_AgUKUNfUuNDWICH
  fS-SERIF_HEAVY_DOUBLE_COMMA_QUOTATION_MARK_ORNAMENTzeTURNED_COMMA_QUOTATION_MARK_ORNAMENT
  zsLOW_DOUBLE_COMMA_QUOTATION_MARK_ORNAMENTzvINTERROBANG_ORNAMENTzeRIcTELLITEa_ANTENNAoURN
  eURASHTRA_CONSONANT_SIGN_HAARUuDANDAeIGIT_EIGHTfFIVEdOUReNINEeONEdSEVENeIXdTHREEeWOdZERO
  jOUBLE_DANDAmLETTER_AaAbIbUcBAbHAdCAbHAdDAbDAbHAdHAdEaEcGAbHAdHAcIaIcJAbHAdKAbHAdLAbLAdMAcNAbGA
  cNAcYAdOaOcPAbHAdRAcSAbHAcSAdTAbHAcTAbHAeUaUcVAbOCALIC_LaLcRaRkYAjSIGN_ANUSVARAiCANDRABINDU
  lVIRAMAeSARGAmVOWEL_SIGN_AAbIbUcEaEcIaIcOaOcUaUcVOCALIC_LaLcRaRzdOPODgXOPHONEiCALESdRFdHOOL
  a_SATCHELmIbOOTEReRPIONcUSgREENcWDRIVERiIPT_CAPITAL_BbEbFbHbIbLbMbPbRjLIGATURE_ET_ORNAMENT
  uSMALL_EbGbLbOlOLLdUPLEgEALbTcCOND_PLACE_MEDALpTION_SIGNiOReDNAdE-NO-EVIL_MONKEYpDLINGgGMENT
  aED_DIGIT_EIGHTfFIVEdOUReNINEeONEdSEVENeIXdTHREEeWOdZEROsLFIEeMICOLON
  fDIRECT_PRODUCT_WITH_BOTTOM_CLOSEDziSEXTILEjPARATED_SYMBOLoRIOUS_FACE_WITH_SYMBOLS_COVERING_MOUTH
  zmVICE_MARKkSAME_DOThQUIQUADRATEmT_MINUSfTRANSMIT_STATEqWING_NEEDLElXTILEgGCcHADOWED_WHITE_CIRCLE
  gLATIN_CROSSlSTARqLLOW_PAN_OF_FOODqMROCKfRADA_ABBREVIATION_SIGNrCONTINUATION_SIGNrDANDA
  eIGIT_EIGHTfFIVEdOUReNINEeONEdSEVENeIXdTHREEeWOdZEROjOUBLE_DANDAmEKAMdXTRA_SHORT_VOWEL_MARK
  wHEADSTROKEkLETTER_AaAbIbUcBAbHAdCAbHAdDAbDAbHAdHAdEbGAbHAdHAcIaIcJAbHAdKAbHAdLAbLAdMAcNAbGAcNA
  cYAdObPAbHAdRAcSAbHAcSAdTAbHAcTAbHAeUaUcVAbOCALIC_LaLcRaRkYAjOMcSANDHI_MARKkECTION_MARK-1b2
  mPARATORiIGN_ANUSVARAhVAGRAHAiCANDRABINDUlINVERTED_CANDRABINDUuJIHVAMULIYAlNUKTAfSIDDHAM
  hUPADHMANIYAlVIRAMAeSARGAlUTRA_MARKkVOWEL_MODIFIER_MARKnSIGN_AAbIbUcEbIaIcObPRISHTHAMATRA_EpUaU
  cVOCALIC_LaLcRaRzKcVED_ICEgIAN_LETTER_ADOcGEcHbIRcREbRAYeSHcWEdBIBdCHURCHgDEADeEARbTcGGcRRdFEE
  dGAGdHA-HAeUNGeIANcCEcFcJUDGEfKICKeLOLLeMEASUREgIMEeNUNdOAKcILcNbOZEdRbUTdPEEPeROAReSObUREeTHEY
  cIGHeOTdUPcVOWdWOEbOLeYEAbWdZOOqEEPdIELDdFT_INcOUTgNTO_SHRINEkPcOCKED_FACE_WITH_EXPLODING_HEAD
  zeOTING_STARkPPING_BAGSeTROLLEYnRT_BACKSLANTED_SOUTH_ARROW
  wENT_ARROW_POINTING_DOWNWARDS_THEN_NORTH_EASTzuDOWN_TACKa_WITH_OVERBARwLEFT_TACK
  jRIGHTWARDS_ARROW_ABOVE_LEFTWARDS_ARROWznSLANTED_NORTH_ARROWtUP_TACKa_ABOVE_SHORT_DOWN_TACK
  vWITH_UNDERBARwCAKEeHAND_FORMAT_CONTINUING_OVERLAPsDOWN_STEPjLETTER_OVERLAPoUP_STEPtS
  dULDERED_OPEN_BOXqWEReRIMPdUGdUFFLE_PRODUCTnYcIaDDHAM_DANDAeOUBLE_DANDAmEND_OF_TEXT_MARKqLETTER_A
  aAbIbLTERNATE_UkUcBAbHAdCAbHAdDAbDAbHAdHAdEbGAbHAdHAcIaIcJAbHAdKAbHAdLAcMAcNAbGAcNAcYAdObPAbHAdRA
  cSAbHAcSAdTAbHAbREE-CIRCLE_ALTERNATE_IxTAbHAdWO-CIRCLE_ALTERNATE_IaIxUaUcVAbOCALIC_LaLcRaRkYA
  jREPETITION_MARK-1b2b3rSECTION_MARK_DOUBLE_RINGa_WITH_RAYSvWITH_CIRCLES_AND_FOUR_ENCLOSURESpRAYS
  eTWO_ENCLOSURESzbDOUBLE_CRESCENTSqQUADRUPLE_CRESCENTStRAYS_AND_DOTTED_CRESCENTSjDOUBLE_CRESCENTS
  qTRIPLE_CRESCENTSzhSEPTUPLE_CRESCENTSsTRIDENT_AND_DOTTED_CRESCENTSqU-SHAPED_ORNAMENTS
  zcPLE_CRESCENTSzhPARATOR_BARdDOTmIGN_ANUSVARAiCANDRABINDUlNUKTAfSIDDHAMhVIRAMAeSARGA
  mVOWEL_SIGN_AAbIbLTERNATE_UaUlUcEbIaIcObUaUcVOCALIC_RaRzbEWAYS_BLACK_DOWN_POINTING_INDEX
  tLEFT_POINTING_INDEXtRIGHT_POINTING_INDEXuUP_POINTING_INDEXxWHITE_DOWN_POINTING_INDEX
  tLEFT_POINTING_INDEXtRIGHT_POINTING_INDEXuUP_POINTING_INDEXzfGN_OF_THE_HORNS
  nWRITING_AIR_BLOW_SMALL_ROTATIONSqING_OUTlSUCK_SMALL_ROTATIONSqING_INoBREATH_EXHALEgINHALE
  lUSH_BETWEENhMULTIPLEiSINGLEmCHEEKS_NEUTRALhPUFFEDgSUCKEDmOLONdMMAfDREAMY_EYEBROWS_DOWN_NEUTRAL
  mNEUTRAL_DOWNeUPkUP_NEUTRALzYNAMIC_ARROWHEAD_LARGEfSMALLpEVERY_OTHER_TIMEqFASTeGRADUALhRELAXED
  hSIMULTANEOUSa_ALTERNATINGxLOWeTENSEnEARSdXCITEMENTjYE_BLINK_MULTIPLEiSINGLEmWINK
  fBROWS_STRAIGHT_DOWNeNEUTRALhUPrGAZE-FLOORPLANE_CURVEDgSTRAIGHTa_ALTERNATINGlDOUBLE
  zbWALLPLANE_CIRCLINGhURVEDgSTRAIGHTa_ALTERNATINGlDOUBLEzfLASHES_DOWNeFLUTTERINGkUPjS_CLOSED
  gHALF_CLOSEDgOPENjOPENeSQUEEZEDiWIDE_OPENfNING_MOVEMENT
  wFACE_DIRECTION_POSITION_NOSE_FORWARD_TILTINGpUP_OR_DOWNa_TILTINGzvILL_MODIFIER-2b3b4b5b6nNGER
  fLICK_LARGE_MULTIPLEiSINGLEmSEQUENTIALjMALL_MULTIPLEiSINGLEqOORPLANE_SHOULDER_HIP_MOVE
  zcOREHEAD_CONTACThNEUTRALhWRINKLEDqULL_STOPjGRASP_BETWEENhMULTIPLEiSINGLEmHAIRcND-ANGLEa_INDEX
  a_MIDDLE_LITTLEgRINGlRING_LITTLEa_OUTpTHUMBa_INcOUTpLITTLE_INDEXa_THUMB_INDEX_THUMBa_OUTzcUP
  jMIDDLE_RING_LITTLEa_INcOUTwRING_DOWN_MIDDLE_THUMB_INDEX_CROSSzeLITTLErCIRCLEa_INDEXa_BENTeHINGE
  fMIDDLEa_CROSS_LITTLEhEDhLITTLEgRINGeTHUMBmRING_LITTLErLITTLE_INDEXfUPjMIDDLE_RING_LITTLEa_BENT
  qUPjRING_LITTLErLAWa_FOUR_FINGERS_CONJOINEDwINDEX_THUMB_CURVE_THUMB_INSIDE
  zfMIDDLE_RING_LITTLE_CONJOINEDa_SIDEziNO_THUMBiTHUMB_FORWARDhSIDEoUPa_FIVE_FINGERS_SPREADa_OPEN
  yINDEXa_RING_LITTLElTHUMBa_OPENqMIDDLE_RING_LITTLEsNO_THUMBiOPENa_NO_THUMBiTHUMB_FORWARDhSIDE
  pTHUMB_FORWARDhSIDEmRLICUEa_INDEX_RING_LITTLE_ONuMIDDLE_RING_LITTLE_ONvOPENnFIST
  a_FOUR_FINGERS_CONJOINED_BENTzcHEELeINDEXa_BENTa_OVER_MIDDLEqCUPPEDgHINGEDa_LOWdMIDDLE_UP
  a_THUMB_SIDEzcMIDDLEa_BENTa_THUMB_STRAIGHTtCONJOINEDa_CUPPEDa_THUMB_FORWARDuHINGEDa_THUMB_SIDE
  rINDEX_BENTkMIDDLE_BENTlTHUMB_FORWARDhSIDEa_BENTeCONJOINEDzeROSS_LITTLEhEDa_THUMB_SIDEsHINGED
  a_SPREAD_THUMB_SIDEyLITTLEgRAISED_KNUCKLESoINGa_BENTeCONJOINEDoSTRAIGHT_THUMB_BENTtTHUMBa_ANGLED
  a_OUTkBENTeCIRCLEDgONJOINED_HINGEDpUPPEDgHINGEDfOOKEDmUP_SPREAD_THUMB_FORWARDzfRAISED_KNUCKLE
  nING_LITTLElTHUMB_ANGLED_IN_MIDDLE_UPmOUT_MIDDLE_UPuCIRCLEaD_MIDDLE_UPqUPPED_MIDDLE_UPoRLICUE
  fVE_THUMB_INSIDEgUNDERrFORWARD_INDEX_BENTeSTRAIGHTwHOOKaED_MIDDLE_HINGEDgUPqSIDEa_BOTH_BENT
  jINDEX_BENTeHINGElTHUMB_BENTeCONJOINEDjDIAGONALzUP_MIDDLE_HINGEDa_THUMB_CONJOINEDjSIDE
  ziLITTLE_BENTeDOWNa_OTHERS_CIRCLEDoRIPPLE_CURVEDgSTRAIGHTuINDEXa_THUMBlRAISED_KNUCKLEoTHUMB
  eOUCHES_THUMBnUPjMIDDLE_BENT_OVER_INDEXpDOWNeLITTLEgRAISED_KNUCKLEnING_LITTLE
  lTHUMB_ANGLED_INDEX_UPiOUT_INDEX_CROSSEDhUPtCIRCLED_INDEX_HINGEDgUPpUPPED_INDEX_UP
  pHOOKED_INDEX_UPpLITTLEmUPa_THUMB_SIDEuRING_DOWNeINDEXfLITTLEgMIDDLEa_CONJOINEDjRAISED_KNUCKLES
  wRAISED_KNUCKLEoTHUMBfUPhTHUMBa_BETWEEN_INDEX_MIDDLEa_STRAIGHTvMIDDLE_RINGlRING_LITTLEtFORWARD
  hHEELeOVER_FOUR_RAISED_KNUCKLESuTWO_FINGERSqSIDE_BENTeCONJOINEDjDIAGONALnUNDER_FOUR_FINGERS
  mINDEX_BENTkLITTLE_UPjTHREE_FINGERSmWO_FINGERSzcLATa_BETWEEN_PALM_FACINGSuFIVE_FINGERS_SPREAD
  a_BENTeFOUR_BENTjHINGEDa_NO_THUMBiTHUMB_SIDErTHUMB_FORWARDzhOUR_FINGERSa_BENTeCONJOINEDa_SPLIT
  pHINGEDtHEELa_FIVE_FINGERS_SPREADa_BENTeFOUR_BENTzeTHUMB_SIDEpSPLIT_CENTREa_THUMB_SIDEa_BENT
  wINDEX_THUMB_SIDEqLITTLEmTHUMB_BENTeFORWARDhSIDEpHINGEa_FIVE_FINGERS_SPREAD_OPEN
  xOUR_FINGERS_CONJOINEDwINDEXa_HINGEDgMIDDLE_LITTLEgRINGa_CONJOINEDvRING_LITTLElTHUMBa_LARGEfOPEN
  eSIDEdMALLrLITTLEa_INDEXa_THUMBlTHUMBmMIDDLEa_RING_LITTLEsNO_THUMBiOPENa_NO_THUMBiTHUMB_FORWARD
  hSIDEpRINGa_DOWN_INDEX_THUMB_HOOK_MIDDLEziSMALLfTHUMB_BETWEEN_MIDDLE_RINGtSIDEa_TOUCHING_INDEX
  zfOOKa_CURLICUEiINDEX_RING_LITTLE_INcOUTdUNDERxMIDDLE_RING_LITTLE_CONJOINEDa_INcOUTzTHUMB
  mRING_THUMBpOVALa_FIVE_FINGERS_SPREADtINDEXfLITTLE_UPjNO_THUMBiRING_LITTLElTHUMB_FORWARDhSIDEtEAD
  a_MOVEMENT_CIRCLEh-FLOORPLANE_CURVEfSTRAIGHTtWALLPLANE_CURVEfSTRAIGHTiTILTxRIMiLIMB_COMBINATION
  lLENGTH-1b2b3b4b5b6b7lP_LOWER_OVER_UPPERqUPPER_OVER_LOWERrS_PRESSED_TOGETHERuOCATION_DEPTH
  fHEAD_NECKhIGHTgLIMBS_DIGITSmTORSOfWIDTHg-FLOORPLANE_SPACEqWALLPLANE_SPACEyMOUTH_CLOSED_CONTACT
  hFORWARDhNEUTRALnORNERShFROWNa_OPENeWRINKLEDoKISSa_FORWARDhWRINKLEDnOPEN_CIRCLEgFORWARDhOVAL
  a_WRINKLEDiYAWNjRECTANGLEa_WRINKLEDiYAWNoWRINKLEDnSMILEa_OPENeWRINKLEDoTENSEa_FORWARDhSUCKED
  mWRINKLES_DOUBLEgSINGLEtVEMENT-DIAGONAL_AWAY_LARGEaSThMEDIUMgSMALLkBETWEEN_AWAY_LARGEaSThMEDIUM
  gSMALLkTOWARDS_LARGEaSThMEDIUMgSMALLvTOWARDS_LARGEaSThMEDIUMgSMALL
  wFLOORPLANE_ARM_CIRCLE_HITTING_WALL_LARGE_DOUBLEgSINGLEmMEDIUM_DOUBLEgSINGLEnSMALL_DOUBLEgSINGLE
  zlBENDdOX_LARGEfMEDIUMgSMALLjCHECKeORNER_LARGEfMEDIUMgSMALLlROSSeURVE_COMBINED
  iHITTING_CEILING_LARGEfSMALLnFLOOR_LARGEfSMALLtLARGEaSThMEDIUMgSMALLlDOUBLE_ALTERNATING
  a_WRIST_FLEXwSTRAIGHTiWRIST_FLEXrFINGER_CIRCLES_HITTING_WALL_DOUBLEgSINGLEzbONTACT
  oHUMP_HITTING_CEILING_LARGE_DOUBLEgTRIPLEmSMALL_DOUBLEgTRIPLEuFLOOR_LARGE_DOUBLEmSMALL_DOUBLE
  mTRIPLE_LARGE_TRIPLEmSMALL_TRIPLEziSMALLkJAWdLOOP_HITTING_CEILING_LARGE_DOUBLEgSINGLE
  mSMALL_DOUBLEgSINGLEuFLOOR_LARGE_DOUBLEgSINGLEmSMALL_DOUBLEgSINGLEzbSMALLkPEAKS_LARGEfMEDIUM
  gSMALLlSHAKING_PARALLELpINGLE_STRAIGHT_LARGEaSThMEDIUMgSMALLoWRIST_FLEX
  rTRIPLE_ALTERNATING_MOVEMENTiWRIST_FLEXwSTRAIGHT_MOVEMENTrWRIST_FLEXrWAVE_HITTING_CEILING_LARGE
  fSMALLnFLOOR_LARGEfSMALLtLARGEfSMALLeNAKEjRIST_CIRCLE_HITTING_WALL_DOUBLEgSINGLEzhZIGZAG_LARGE
  fMEDIUMgSMALLxHINGE_DOWN_SEQUENTIALpSIDE_TO_SIDE_SCISSORSvUP_DOWN_ALTERNATING_LARGEfSMALLrLARGE
  fSMALLkSEQUENTIALtWALLPLANE_ARM_CIRCLE_MEDIUM_DOUBLEgSINGLEnSMALL_DOUBLEgSINGLExBEND_LARGEfMEDIUM
  gSMALLjOX_LARGEfMEDIUMgSMALLjCHECK_LARGEfMEDIUMgSMALLkORNER_LARGEfMEDIUMgROTATIONiSMALLlROSS
  eURVE_HALF-CIRCLE_LARGEaSThMEDIUMgSMALLqITTING_CHESTfFRONT_WALLsQUARTER_LARGEaSThMEDIUMgSMALL
  nTHEN_STRAIGHTlREE-QUARTER_CIRCLE_MEDIUMgSMALLzcD_CROSS_MEDIUMgSMALLsDOUBLE_ALTERNATING
  a_WRIST_FLEXwSTRAIGHTiWRIST_FLEXrFINGER_CIRCLES_DOUBLEgSINGLEnONTACToHUMP_HITTING_CHEST
  fFRONT_WALLsLARGEfMEDIUMgSMALLkJAWdLOOP_HITTING_CHESTfFRONT_WALLsLARGEfMEDIUMgSMALLa_DOUBLE
  rPEAKS_LARGEfMEDIUMgSMALLlSHAKINGgINGLE_STRAIGHT_LARGEaSThMEDIUMgSMALLoWRIST_FLEX
  rTRIPLE_ALTERNATINGa_WRIST_FLEXwSTRAIGHT_MOVEMENTrWRIST_FLEXrWAVE_CURVE_DOUBLE_LARGEfMEDIUMgSMALL
  mTRIPLE_LARGEfMEDIUMgSMALLsDIAGONAL_PATH_LARGEfMEDIUMgSMALLtHITTING_CHESTfFRONT_WALL
  wRIST_CIRCLE_FRONT_DOUBLEgSINGLEzZIGZAG_LARGEfMEDIUMgSMALLzgNECKdOSE_CONTACThNEUTRALhWIGGLES
  gRINKLESnPARENTHESISlROTATION_MODIFIER-10b1b2b3b4b5b6c2b3b4b5b6b7b8b9l-FLOORPLANE_ALTERNATING
  a_HITTING_CEILINGhFLOORzDOUBLEa_HITTING_CEILINGhFLOORuSINGLEa_HITTING_CEILINGhFLOOR
  zgWALLPLANE_ALTERNATEbING_HITTING_CHESTfFRONT_WALLzfDOUBLEa_HITTING_CHESTfFRONT_WALLzSINGLE
  a_HITTING_CHESTfFRONT_WALLzsUB_BETWEENhMULTIPLEiSINGLEkSEMICOLONiHOULDER_HIP_POSITIONSjSPINE
  jTILTING_FROM_WAISTzbQUEEZE_FLICK_ALTERNATINGrLARGE_MULTIPLEiSINGLEmSEQUENTIALjMALL_MULTIPLE
  iSINGLEtTRIKE_BETWEENhMULTIPLEiSINGLEmURFACE_BETWEENhSYMBOLSpTEETHa_BITE_LIPSjMOVEMENTiON_LIPS
  a_MOVEMENTnTONGUEa_MOVEMENTwNSE_CHEEKS_HIGHeLOWdMIDDLEsONGUE_CENTRE_INSIDE_MOUTHmSTICKING_OUT
  tINSIDE_MOUTH_RELAXEDuLICKING_LIPSmMOVES_AGAINST_CHEEKtSTICKING_OUT_FARqTIP_BETWEEN_LIPS
  mTOUCHING_INSIDE_MOUTHzfRSO-FLOORPLANE_TWISTINGtWALLPLANE_CURVED_BENDlSTRAIGHT_STRETCH
  zfUCH_BETWEENhMULTIPLEiSINGLElRAVEL-FLOORPLANE_ROTATION-FLOORPLANE_ALTERNATINGlDOUBLEgSINGLE
  rWALLPLANE_ALTERNATINGlDOUBLEgSINGLEzSHAKINGsWALLPLANE_ARM_SPIRAL_DOUBLEgSINGLEgTRIPLE
  rROTATION-FLOORPLANE_ALTERNATINGlDOUBLEgSINGLErWALLPLANE_ALTERNATINGlDOUBLEgSINGLEzSHAKING
  yUPPER_BODY_TILTING_FROM_HIP_JOINTSzjWALLPLANE_SHOULDER_HIP_MOVEzmLHOUETTE_OF_JAPAN
  rMILAR_ABOVE_GREATER-THAN_ABOVE_EQUALS_SIGNzfLESS-THAN_ABOVE_EQUALS_SIGNziMINUS_SIMILAR
  nOR_GREATER-THANmLESS-THANsNE_WAVEgGLE_CHARACTER_INTRODUCERuGRAPHIC_CHARACTER_INTRODUCER
  zdHIGH-REVERSED-9_QUOTATION_MARKzfLEFT-POINTING_ANGLE_QUOTATION_MARKziOW-9_QUOTATION_MARK
  uRIGHT-POINTING_ANGLE_QUOTATION_MARKzkSHIFT_THREEeWOk-SHIFT-2b3lHALA_ARCHAIC_DIGIT_EIGHTfFIVEdOUR
  eNINEeONEdSEVENeIXdTHREEeWOjNUMBER_EIGHTYgFIFTYeORTYfNINETYgONE_HUNDREDhTHOUSANDmSEVENTYgIXTYfTEN
  cHIRTYfWENTYvLETTER_AAYANNAgEEYANNAgYANNAgIYANNAgLPAPRAANA_BAYANNAhCAYANNAhDAYANNAgDAYANNA
  iGAYANNAhJAYANNAhKAYANNAhPAYANNAhTAYANNAgTAYANNAsMBA_BAYANNAlUYANNAgYANNAgDANTAJA_LAYANNAhNAYANNA
  hSAYANNApEEYANNAgYANNAgFAYANNAhHAYANNAhIIYANNAgLUUYANNAgYANNAhRUUYANNAgYANNAhYANNA
  gKANTAJA_NAASIKYAYAsMAHAAPRAANA_BAYANNAhCAYANNAhDAYANNAgDAYANNAiGAYANNAhJAYANNAhKAYANNAhPAYANNA
  hTAYANNAgTAYANNAsYANNAgUURDHAJA_LAYANNAhNAYANNAhSAYANNArOOYANNAgYANNAgRAYANNAhSANYAKA_DAYANNA
  gDAYANNAiGAYANNAhJAYANNApTAALUJA_NAASIKYAYAkSANYOOGA_NAAKSIKYAYAsYANNApUUYANNAgYANNAgVAYANNA
  hYAYANNAnITH_DIGIT_EIGHTfFIVEdOUReNINEeONEdSEVENeIXdTHREEeWOdZEROpPUNCTUATION_KUNDDALIYA
  wSIGN_AL-LAKUNAiNUSVARAYAkCANDRABINDUlVISARGAYAoVOWEL_SIGN_AELA-PILLAkDIGA_AEDA-PILLA
  kGAETTA-PILLAkYANUKITTAlIS-PILLAiKOMBUVAhPAA-PILLAoGAETTA-PILLAkYANUKITTAlKETTI_AEDA-PILLA
  kIS-PILLAiPAA-PILLAoOMBU_DEKAfVAa_HAA_AELA-PILLAkDIGA_AELA-PILLApGAYANUKITTA
  zpX_PETALLED_BLACK_AND_WHITE_FLORETTEzhOINTED_BLACK_STARkPINWHEEL_STARnSTAR_WITH_MIDDLE_DOT
  ze-PER-EM_SPACEnTEEN_POINTED_ASTERISKxKATEBOARDiI_AND_SKI_BOOTnERdULLa_AND_CROSSBONESrNK
  eLANTED_EQUAL_TO_OR_GREATER-THANa_WITH_DOT_INSIDEzdLESS-THANa_WITH_DOT_INSIDE
  zmNORTH_ARROW_WITH_HOOKED_HEADjRIZONTAL_TAILzmVONIC_ASTERISKpEDbEPING_ACCOMMODATIONnFACEeSYMBOL
  kY_FACEiUTH_OR_SPYlICE_OF_PIZZAlGHTLY_FROWNING_FACEnSMILING_FACEtOPEbING_LARGE_ANDdORnT_MACHINEiH
  eMALL_AIRPLANEhMPERSANDiSTERISKiBLUE_DIAMONDmCOLONdMMAbERCIAL_ATlNTAINS_AS_MEMBERjWITH_OVERBAR
  hVERTICAL_BAR_AT_END_OF_HORIZONTAL_STROKEzzeDOLLAR_SIGNlELEMENT_OFa_WITH_OVERBAR
  hVERTICAL_BAR_AT_END_OF_HORIZONTAL_STROKEzzfM_DASHgQUALS_SIGNkXCLAMATION_MARKqFULL_STOP
  jGREATER-THAN_SIGNrHYPHEN-MINUSmIDEOGRAPHIC_COMMArLEFT_CURLY_BRACKETnPARENTHESIS
  lTORTOISE_SHELL_BRACKETzSS-THAN_SIGNoNUMBER_SIGNlORANGE_DIAMONDoPERCENT_SIGNlLUS_SIGN
  jQUESTION_MARKnREVERSE_SOLIDUSoIGHT_CURLY_BRACKETnPARENTHESISlTORTOISE_SHELL_BRACKET
  zcOMAN_NUMERAL_EIGHTeLEVENgFIFTYdVEa_HUNDREDlOUReNINEeONEa_HUNDREDhTHOUSANDmSEVENeIXdTENcHREE
  eWELVEeOrSEMICOLONjTILDEeWO_DOTS_OVER_ONE_DOT_PUNCTUATIONziVEE_WITH_UNDERBARsER_THANa_OR_EQUAL_TO
  vSH_PRODUCTlILEbING_CAT_FACE_WITH_HEART-SHAPED_EYESrOPEN_MOUTHyFACE_WITH_HALOdEART-SHAPED_EYES
  qORNSfOPEN_MOUTHa_AND_COLD_SWEATkSMILING_EYESmTIGHTLY-CLOSED_EYESzjSMILING_EYES
  a_AND_HAND_COVERING_MOUTHtTHREE_HEARTSzdUNGLASSESkTEARtRKING_FACElOKING_SYMBOLnNAILcKE
  dEEZING_FACElOW_CAPPED_MOUNTAINqBOARDERhFLAKEfMANa_WITHOUT_SNOWtOaCCER_BALLiKSdFT_HYPHEN
  gICE_CREAMjSHELL_FLOPPY_DISKsBALLeWARE-FUNCTION_SYMBOLwGDIAN_COMBINING_CURVE_ABOVEfBELOW
  lDOT_ABOVEfBELOWjHOOK_ABOVEfBELOWkLONG_HOOK_BELOWpRESH_BELOWkSTROKE_BELOWmTWO_DOTS_ABOVEfBELOW
  yINDEPENDENT_SHINqLETTER_ALEPHeYINeBETHeFETHeGIMELfHEaTHeKAPHeLAMEDHfESHeMEMdNUNdPEcRESH-AYIN
  jSADHEdMEKHfHINeTAWdWAWdYODHeZAYINmNUMBER_ONEa_HUNDREDlTENcWENTYnPUNCTUATION_CIRCLE_WITH_DOT
  pHALF_CIRCLE_WITH_DOTuTWO_CIRCLES_WITH_DOTSrVERTICAL_BARSa_WITH_DOTSzuHbLID_QUILT_SQUARE_ORNAMENT
  a_IN_BLACK_SQUAREznUSa_WITH_OVERBARsM_SIGNgON_WITH_RIGHTWARDS_ARROW_ABOVEzfRA_SOMPENG_DIGIT_EIGHT
  fFIVEdOUReNINEeONEdSEVENeIXdTHREEeWOdZEROkLETTER_AHcBAHdCAHdDAHdEEHcHcGAHdHAHdIHcJAHdKAHdLAHdMAE
  bHdNAHcGAHdYAHeOHcPAHdRAHdSAHdTAHdUHcVAHdYAHvSbUND_RECORDING_COPYRIGHTwTH_EAST_ARROW
  a_AND_SOUTH_WEST_ARROWuCROSSING_NORTH_EAST_ARROWzTO_CORNERjWITH_HOOKpBLACK_ARROWlDOUBLE_ARROW
  mPOINTING_BUDdLEAFeVINE_LEAFsSANS-SERIF_ARROWqTRIANGLE-HEADED_ARROWa_TO_BARzdWHITE_ARROW
  qWEST_ARROWa_AND_NORTH_WEST_ARROWuWITH_HOOKpBLACK_ARROWlDOUBLE_ARROWmPOINTING_BUDdLEAFeVINE_LEAF
  sSANS-SERIF_ARROWqTRIANGLE-HEADED_ARROWa_TO_BARzdWHITE_ARROWuYOMBO_CLUSTER-INITIAL_LETTER_LAcRA
  cSAbHAzbFINAL_CONSONANT_SIGN_-AcBbDbGbKbLbMbNaGcRbSaHxGEMINATION_MARKpHEAD_MARK_WITH_MOON_AND_SUN
  a_AND_FLAMEfTRIPLE_FLAMEztLETTER_-AcAbBAbHAdCAbHAdDAbDAbHAdHAcZAdGAbHAdHAcJAbHAdKAbHAcSSAeLAcMA
  cNAbGAcNAcYAdPAbHAdRAcSAbHAcSAdTAbHAcSAbHAdTAbHAeVAcYAcZAbHAkMARK_DOUBLE_SHADlPLUTAfSHADeTSHEG
  kSIGN_ANUSVARAiJIHVAMULIYAlUPADHMANIYAlVISARGAlUBJOINERjTERMINAL_MARK-1b2pVOWEL_LENGTH_MARK
  lSIGN_AIbUcEbIbOaEcUaEcVOCALIC_LbRzcPaAaCEcGHETTIgRKLEaScING_HEARTnEAK-NO-EVIL_MONKEYpER
  a_WITH_CANCELLATION_STROKEtONE_SOUND_WAVEoTHREE_SOUND_WAVESzING_HEAD_IN_SILHOUETTEyECH_BALLOON
  kDBOATgSMILO_SIGNlHERICAL_ANGLEa_OPENING_LEFTeUPyIDERa_WEBhRAL_CALENDAR_PADmNOTE_PADiSHELL
  kLASHING_SWEAT_SYMBOLuONGEdOL_OF_THREADlNcRTS_MEDALjUTING_WHALEnQUARE_A_OVER_MhARUdMbNPEAePAATO
  fRUHUAfUcBAARERUfRcEETAeIRUdORUTOfQbUSSYERUiC_OVER_KGiALbPcCbDbMa_CUBEDfSQUAREDjOaRPORATIONkUPdDA
  aASUeBbESIdJbLbMa_CUBEDfSQUAREDjORUeEEKAAeRA_NAME_HEISEIgMEIZIfREIWAfSYOUWAgTAISYOUoGcSUKUUDOhV
  cFMbOOTcUR_CORNERSmGALbNMAdRONeBbHZcIGAcNIIdRUDAAgPAcURAMUaTONiYcHAaITUeEKUTAARUhRUTUfG
  bIRAGANA_HOKAmONbONbRUePaAcUARADDOgIITOeRANeZcIMAGE_OFa_OR_EQUAL_TOiNOT_EQUAL_TOxNaINGUeTIdU
  cK_OHMeAaIRIdRATTOeORIIgBbCALdEESUeGbHZcIROaGURAMUgMEETORUhWATTOiKbLbMa_CAPITALgUBEDfSQUAREDjOOPO
  dRUNAfPAcTbUROONEeUZEIROiVbWbYURIIgLEFT_OPEN_BOX_OPERATORvMbNbOGbZENGEgXcM_CUBEDfOHMcVER_S
  a_SQUAREDoSQUAREDiAaHHAdIKUROeRUdNSYONfRUKUfBa_SMALLhEETORUfGAaTONgGbHZcIKURONfLbRIaBAARUiLbM
  a_CUBEDfSQUAREDjOLcPAcSbU_AbFbGbLbMbSbVbWdVa_MEGAgWa_MEGAhNAaNOdFbMbOTTOeSbVbWcONSUdOMU
  dRIGINAL_OFa_OR_EQUAL_TOiNOT_EQUAL_TOzbVcPAa_AMPSfASENTOfTUeCbEEZIdNIHIdSUdSOdFbHbIASUTORUhKObURU
  fMbOINTOeNDOdSITION_INDICATORrPMcRbSbVbWcRADa_OVER_Sa_SQUAREDrEMUcNTOGENhIGHT_OPEN_BOX_OPERATOR
  vRAcTTORUgOOTdUPIIdUBURUhSAIKURUfNTIIMUhENTIbOeIRINGUgRbVcTARGETfHZcONdUONdV_OVER_MiWATTOeB
  bITH_BOTTOM_HALF_BLACKrCONTOURED_OUTLINErDIAGONAL_CROSSHATCH_FILLyHORIZONTAL_FILLpLEFT_HALF_BLACK
  oOWER_LEFT_DIAGONAL_HALF_BLACKyRIGHT_DIAGONAL_HALF_BLACKzgORTHOGONAL_CROSSHATCH_FILL
  zbRIGHT_HALF_BLACKqTOP_HALF_BLACKoUPPER_LEFT_DIAGONAL_HALF_BLACKtTO_LOWER_RIGHT_FILL
  yRIGHT_DIAGONAL_HALF_BLACKtTO_LOWER_LEFT_FILLzfVERTICAL_FILLsYAADOcRUeUANfD_ASTERISK
  iCJK_UNIFIED_IDEOGRAPH-4E00b9c2Dc8CcA4e518Dd21Dc4Dc72d3CCcF3d408c39d5B6d8F0d91Ac29dB57dDE6dF8C
  e624Bc53c95d307c55d599cB0d620d708b9dE80dF14e7121d51Fc33d981dA7AdD42e89E3dCA9dD70e904Ad14DzLbOOL
  eDOT_OPERATORmEIGHT_KhFALLING_DIAGONAL_SLASHvIVE_POINT_ONEnOUR_DOT_PUNCTUATIONpKfREEeHCbDRcI-RES
  fVcIDcKATAKANA_DEcKOKOeSAkEYdLATIN_CAPITAL_LETTER_AbBbCbDbEbFbGbHbIbJbKbLbMbNbObPbQbRbSbTbUbVbWbX
  bYbZqSMALL_LETTER_DtOGICAL_ANDdORiSSLESSiMINUSeVcNEWcGcOKbNE_HUNDRED_TWENTY_PuPLUSdPV
  dRISING_DIAGONAL_SLASHvSALTIREgDbECOND_SCREENlVEN_POINT_ONEoHVcIXTY_PgMALL_CIRCLElOScQUAREfS
  cTHREE_DgIMESeWENTY-TWO_POINT_TWOsO_KfUHDcP_WITH_EXCLAMATION_MARKyVODcScWC
  gT_BLACK_RIGHTWARDS_ARROWzIDeS2b3bAcTaADIUMeFF_OF_AESCULAPIUSlHERMESmMPED_ENVELOPEnNDING_PERSON
  mR_AND_CRESCENTmEQUALSgOF_DAVIDhPERATORiWITH_LEFT_HALF_BLACKpRIGHT_HALF_BLACKwT_OF_GUARDED_AREA
  mHEADINGhPROTECTED_AREAoSELECTED_AREAmTRINGgTEXTkTIONdUE_OF_LIBERTYpEAM_LOCOMOTIVElING_BOWL
  kNOGRAPHIC_FULL_STOPtTHOSCOPEjICK_FIGUREa_LEANING_LEFTeRIGHTnWITH_ARMS_RAISEDlDRESSvOCK_CHART
  iPWATCHhRAIGHT_RULERgNESSiWBERRYhESS_OUTLINED_WHITE_STARxICTLY_EQUIVALENT_TOsNG_TERMINATORpS
  bUDIO_MICROPHONEoFFED_FLATBREADoPAdXcUBaSCRIPT_EIGHTeQUALS_SIGNlFIVEdOUReLEFT_PARENTHESISqMINUS
  fNINEeONEdPLUS_SIGNjRIGHT_PARENTHESISrSEVENeIXdTHREEeWOdZEROkET_ABOVE_RIGHTWARDS_ARROWqSUBSET
  ePERSEToOFa_ABOVE_ALMOST_EQUAL_TOpEQUALS_SIGNlNOT_EQUAL_TOmTILDE_OPERATORuOR_EQUAL_TO
  a_WITH_DOT_ABOVEzbWITH_NOT_EQUAL_TOuWITH_DOTdMULTIPLICATION_SIGN_BELOWzPLUS_SIGN_BELOWxTITUTE
  iCCEEDSa_ABOVE_ALMOST_EQUAL_TOpEQUALS_SIGNlNOT_ALMOST_EQUAL_TOpEQUAL_TOmSINGLE-LINE_EQUALS_SIGN
  lNOT_EQUAL_TOzfBUT_NOT_EQUIVALENT_TOvOR_EQUAL_TOfIVALENT_TOqUNDER_RELATIONvMMATION_BOTTOMgTOP
  dWITH_INTEGRALvNa_BEHIND_CLOUDmWITH_FACEkDANESE_AVAGRAHAiCONSONANT_SIGN_PAMINGKALhNYAKRAeIKU
  fSANGAN_MAcWAzbDIGIT_EIGHTfFIVEdOUReNINEeONEdSEVENeIXdTHREEeWOdZEROkLETTER_AaEcBAbHAdCAcDAcEaUcFA
  bINAL_KbMhGAcHAcIbJAcKAbHAdLAbEUdMAcNAbGAcYAdObPAcQAcRAbEUdSAbYAdTAcUbVAcWAcXAcYAcZA
  jPUNCTUATION_BINDU_BA_SATANGAkCAKRAfDA_SATANGAkKA_SATANGAkLEU_SATANGAlPANGLONGhURNAMAhSURYA
  xSIGN_PAMAAEHfNGLAYARfWISADgYECEKiVIRAMAlVOWEL_SIGN_PAMEPETfNAELAENGhEULEUNGhGHULUfOLONGfYUKU
  zFLOWERgRISEa_OVER_MOUNTAINStSET_OVER_BUILDINGStPERHEROeSCRIPT_EIGHTeQUALS_SIGNlFIVEdOUR
  eLATIN_SMALL_LETTER_IbNtEFT_PARENTHESISqMINUSfNINEeONEdPLUS_SIGNjRIGHT_PARENTHESISrSEVENeIXdTHREE
  eWOdZEROkET_ABOVE_LEFTWARDS_ARROWpSUBSETePERSEToBESIDE_AND_JOINED_BY_DASH_WITH_SUBSETzfSUBSETnOF
  a_ABOVE_ALMOST_EQUAL_TOpEQUALS_SIGNlNOT_EQUAL_TOmTILDE_OPERATORuOR_EQUAL_TOa_WITH_DOT_ABOVE
  zbWITH_NOT_EQUAL_TOuPRECEDING_SOLIDUSrWITH_DOTdMULTIPLICATION_SIGN_BELOWzPLUS_SIGN_BELOWyVILLAIN
  kRFACE_INTEGRALmEReSHIcPENSION_RAILWAYrWANbSH_AMPERSAND_ORNAMENTwIMMERfUNG_DASH
  jYLOTI_NAGRI_LETTER_AbBHOcOcCHOcOcDDHOcOcHOcOcEbGHOcOcHOcIbJHOcOcKHOcOcLOcMOcNOcObPHOcOcRObROdSO
  cTHOcObTHOcOdUiPOETRY_MARK-1b2b3b4nSIGN_ALTERNATE_HASANTAqNUSVARAiDVISVARAiHASANTAmVOWEL_SIGN_AbE
  bIbOOcUxMBOL_FOR_ACKNOWLEDGElBACKSPACEiELLeCANCELeRRIAGE_RETURNpDATA_LINK_ESCAPEpELETEa_FORM_TWO
  nVICE_CONTROL_FOUReONEdTHREEeWOsEND_OF_MEDIUMgTEXTdRANSMISSIONa_BLOCKxQUIRYgSCAPEgFILE_SEPARATOR
  nORM_FEEDjGROUP_SEPARATORpHORIZONTAL_TABULATIONvLINE_FEEDjMARKS_CHAPTERnNEGATIVE_ACKNOWLEDGE
  sWLINEgULLeRECORD_SEPARATORqSAMARITAN_SOURCEpHIFT_INcOUTiPACEeTART_OF_HEADINGhTEXTmUBSTITUTE
  a_FORM_TWOsYNCHRONOUS_IDLEqTYPE_A_ELECTRONICSsUNIT_SEPARATORoVERTICAL_TABULATIONzcMETRYgNaAGOGUE
  gCHRONOUS_IDLEoRIAC_ABBREVIATION_MARKrBARREKHhCOLON_SKEWED_LEFTeRIGHTqNTRACTION
  lDOTTED_ZLAMA_ANGULARhHORIZONTALxEND_OF_PARAGRAPHpSASA_ABOVEfBELOWlFEMININE_DOT
  mHARKLEAN_ASTERISCUSkMETOBELUSjOBELUSoBASA_ABOVEfBELOWg-ESASA_DOTTEDrORIZONTAL_COLONqLETTER_ALAPH
  fBETHeDALATHfOTLESS_DALATH_RISHtEbFINAL_SEMKATHnGAMALa_GARSHUNIoHEaTHeKAPHeLAMADHgMALAYALAM_BHA
  dJAcLLAbLAeNGAcNAbNAdYAdRAcSSAdTTAmIMdNUNdPEaRSIAN_BHETHfDHALATHhGHAMALoQAPHeREVERSED_PEkISH
  eSADHEeEMKATHgHINdOGDIAN_FEcKHAPHfZHAINmUPERSCRIPT_ALAPHrTAWcETHa_GARSHUNInWAWdYUDHa_HEhZAIN
  lMUSICfOBLIQUE_LINE_ABOVEfBELOWsPTHAHA_ABOVEfBELOWfDOTTEDnQUSHSHAYAjRBASA_ABOVEfBELOWkUKKAKHA
  hWAHAfSUBLINEAR_COLONa_SKEWED_LEFTeRIGHTsFULL_STOPrPRALINEAR_COLONa_SKEWED_LEFTrFULL_STOP
  vTHREE_DOTS_ABOVEfBELOWpWO_VERTICAL_DOTS_ABOVEfBELOWxZQAPHA_ABOVEfBELOWfDOTTEDqNGEhT-REXdSHIRTgAB
  aLE_TENNIS_PADDLE_AND_BALLzbCOcG_AMPERSANDiPOSTROPHEjSTERISKiCIRCUMFLEX_ACCENTqOLONdMMAbERCIAL_AT
  nDIGIT_EIGHTfFIVEdOUReNINEeONEdSEVENeIXdTHREEeWOdZEROjOLLAR_SIGNlEQUALS_SIGNkXCLAMATION_MARK
  qFULL_STOPjGRAVE_ACCENTkEATER-THAN_SIGNrHYPHEN-MINUSmLATIN_CAPITAL_LETTER_AbBbCbDbEbFbGbHbIbJbKbL
  bMbNbObPbQbRbSbTbUbVbWbXbYbZqSMALL_LETTER_AbBbCbDbEbFbGbHbIbJbKbLbMbNbObPbQbRbSbTbUbVbWbXbYbZ
  tEFT_CURLY_BRACKETnPARENTHESISlSQUARE_BRACKETrSS-THAN_SIGNnOW_LINEiNUMBER_SIGNlPERCENT_SIGN
  lLUS_SIGNjQUESTION_MARKlOTATION_MARKoREVERSE_SOLIDUSoIGHT_CURLY_BRACKETnPARENTHESIS
  lSQUARE_BRACKETuSEMICOLONiOLIDUSgPACEfTILDEfVERTICAL_LINEoALOG_LETTER_AaRCHAIC_RAkBAcDAcGAcHAcI
  bKAcLAcMAcNAbGAdPAcRAcSAcTAcUbWAcYAjSIGN_PAMUDPODiVIRAMAlVOWEL_SIGN_IbUrBANWA_LETTER_AbBAcDAcGAcI
  bKAcLAcMAcNAbGAdPAcSAcTAcUbWAcYAjVOWEL_SIGN_IbUtI_LE_LETTER_AaIbUEdEaEbHcFAcHAcIbKAbHAdLAcMAcNA
  bGAdOaOcPAbHAdQAcSAcTAbHAcONE-2b3b4b5b6fSAbHAeUaEcVAcXAcYAmTHAM_COMBINING_CRYPTOGRAMMIC_DOT
  zNSONANT_SIGN_BAcFINAL_NGAjHIGH_RATHA_OR_LOW_PAuLA_TANG_LAIkOW_PAgMAbEDIAL_LAcRAjSA
  rHORA_DIGIT_EIGHTfFIVEdOUReNINEeONEdSEVENeIXdTHREEeWOdZEROpLETTER_AbBAcDAcEEcGREAT_SAiHIGH_CAbHA
  dFAcHAcKAbHAcXAdPAbHAdRATHAfSAbHAcSAdTAbHAdYAhIaIcLAaEcLAcOW_CAbHAdFAcHAcKAbHAcXAdPAbHAdRATHAfSA
  cTAbHAdYAfUEdMAcNAbGAcYAdOOcRAaNAcTAdUEdUaUcWAjSIGN_CAANGfDOKMAIgHANGdOYdKAANaKUUgEOWdHUEN_TONE-3
  b4b5h-LUE_KARANpMAI_KANGa_LAIiSAMdYAMOKjRA_HAAMgEVERSED_ROTATED_RANAvSAKOTdTKAANaKUUiWANfTONE-1b2
  gWIANGaWAAKoTHAM_DIGIT_EIGHTfFIVEdOUReNINEeONEdSEVENeIXdTHREEeWOdZEROpVOWEL_SIGN_AaAbEbIcEbIaI
  cMAI_SAThOaA_ABOVEfBELOWhObYcTALL_AAgHAM_AIhUaEbUaEtVIET_LETTER_HIGH_BOcCHOcOcDOcFOcGOcHOcKHHOcO
  cOcLOcMOcNGOcObYOdObPHOcOcROcSOcTHOcOcVOcYOhLOW_BOcCHOcOcDOcFOcGOcHOcKHHOcOcOcLOcMOcNGOcObYOdO
  bPHOcOcROcSOcTHOcOcVOcYOnMAI_KANGdHITiSYMBOL_HO_HOIgKOI_KOIfNdNUENGfSAMkTONE_MAI_EKcNUENGfSONG
  eTHOmVOWEL_AAbMbNbUEcYcEbIaAcObUaAbEaAqKEOUT_BOXiRI_ABBREVIATION_SIGNrDIGIT_EIGHTfFIVEdOUReNINE
  eONEdSEVENeIXdTHREEeWOdZEROkLETTER_AaAbIbRCHAIC_KHAkUcBAbHAdCAbHAdDAbDAbHAdHAdEbGAbHAdHAcIaIcJA
  bHAdKAbHAdLAcMAcNAbGAcNAcYAdObPAbHAdRAbRAdSAbHAdTAbHAcTAbHAeUaUcVAcYAjSIGN_ANUSVARAiNUKTAfVIRAMA
  eSARGAmVOWEL_SIGN_AAbIbUcEbIaIcObUaUrLLY_MARK_FIVEeONEmMALEdIL_AND_ODD_SIGNlS_ABOVE_SIGN
  mU_LENGTH_MARKoCREDIT_SIGNkURRENT_SIGNmDAY_SIGNhEBIT_SIGNjIGIT_EIGHTfFIVEdOUReNINEeONEdSEVENeIX
  dTHREEeWOdZEROjRY_CULTIVATION_SIGNuFRACTION_DOWNSCALING_FACTOR_KIIZHyONE_EIGHTHbIETHjFIFTH
  eORTIETHiHALF-1b2gONE-HUNDRED-AND-SIXTIETHyQUARTERhSIXTEENTH-1b2hY-FOURTHmTENTHeHIRTY-SECOND
  lREE-HUNDRED-AND-TWENTIETHzbWENTIETHnTHREE_EIGHTIETHSkQUARTERSiSIXTEENTHSgY-FOURTHSnTWENTIETHS
  zIN_POSSESSION_SIGNsLAND_SIGNiETTER_AaAbIbUcCAcEaEcHAcIaIcJAcKAcLAbLAbLAeMAcNAbGAcNAbNAdYAdOaOcPA
  cRAbRAdSAbHAcSAdTAbTAdUaUcVAcYAjMONTH_SIGNkNUMBER_ONE_HUNDREDhTHOUSANDmSIGNeTENkOM
  cPUNCTUATION_END_OF_TEXTxRUPEE_SIGNkSALT_PAN_SIGNmIGN_AAZHAAKKUiNUSVARAiCEVITUgKAACUeURUNIeZHI
  fMUKKURUNIhTHALIYAhUVUZHAKKUlNELdPAARAMeNAMdTHAKKUhONdUZHAKKUhVAKAIYARAAiRAAKANhELIdIRAMAeSARGA
  lPENT_SIGNjTARTING_FROM_SIGNsTOTAL_SIGNjRADITIONAL_CREDIT_SIGNlNUMBER_SIGNxVOWEL_SIGN_AAbIbUcEaE
  cIaIcOaOcUaUnWET_CULTIVATION_SIGNuYEAR_SIGNnNABATA_TREEkGERINEfSA_DIGIT_EIGHTfFIVEdOUReNINEeONE
  dSEVENeIXdTHREEeWOdZEROkLETTER_ACbQbWCbQbXbZcXbZcBAcCAbHAdDAbHAdECbQbXbZcFAbINAL_NGiGAbHAdHAbTA
  bTAeICbQbXbZcKAbHAdLAbONG_UEXiMAbCbQbXbZcNAbGAcHAcYAdOCbQbXbZcPAbHAdRAcSAbHAbORT_AWXdUEZjTAbHAcSA
  dUCbECbQbXbZcICbQbUCbQbXbZcXbZcQbXbZcVCbQbXbZcWAcXAcYAcZAmUT_COMPONENT-001b2b3b4b5b6b7b8b9c10b1b2
  b3b4b5b6b7b8b9c20b1b2b3b4b5b6b7b8b9c30b1b2b3b4b5b6b7b8b9c40b1b2b3b4b5b6b7b8b9c50b1b2b3b4b5b6b7b8
  b9c60b1b2b3b4b5b6b7b8b9c70b1b2b3b4b5b6b7b8b9c80b1b2b3b4b5b6b7b8b9c90b1b2b3b4b5b6b7b8b9d100b1b2b3
  b4b5b6b7b8b9c10b1b2b3b4b5b6b7b8b9c20b1b2b3b4b5b6b7b8b9c30b1b2b3b4b5b6b7b8b9c40b1b2b3b4b5b6b7b8b9
  c50b1b2b3b4b5b6b7b8b9c60b1b2b3b4b5b6b7b8b9c70b1b2b3b4b5b6b7b8b9c80b1b2b3b4b5b6b7b8b9c90b1b2b3b4b5
  b6b7b8b9d200b1b2b3b4b5b6b7b8b9c10b1b2b3b4b5b6b7b8b9c20b1b2b3b4b5b6b7b8b9c30b1b2b3b4b5b6b7b8b9c40
  b1b2b3b4b5b6b7b8b9c50b1b2b3b4b5b6b7b8b9c60b1b2b3b4b5b6b7b8b9c70b1b2b3b4b5b6b7b8b9c80b1b2b3b4b5b6
  b7b8b9c90b1b2b3b4b5b6b7b8b9d300b1b2b3b4b5b6b7b8b9c10b1b2b3b4b5b6b7b8b9c20b1b2b3b4b5b6b7b8b9c30b1
  b2b3b4b5b6b7b8b9c40b1b2b3b4b5b6b7b8b9c50b1b2b3b4b5b6b7b8b9c60b1b2b3b4b5b6b7b8b9c70b1b2b3b4b5b6b7
  b8b9c80b1b2b3b4b5b6b7b8b9c90b1b2b3b4b5b6b7b8b9d400b1b2b3b4b5b6b7b8b9c10b1b2b3b4b5b6b7b8b9c20b1b2
  b3b4b5b6b7b8b9c30b1b2b3b4b5b6b7b8b9c40b1b2b3b4b5b6b7b8b9c50b1b2b3b4b5b6b7b8b9c60b1b2b3b4b5b6b7b8
  b9c70b1b2b3b4b5b6b7b8b9c80b1b2b3b4b5b6b7b8b9c90b1b2b3b4b5b6b7b8b9d500b1b2b3b4b5b6b7b8b9c10b1b2b3
  b4b5b6b7b8b9c20b1b2b3b4b5b6b7b8b9c30b1b2b3b4b5b6b7b8b9c40b1b2b3b4b5b6b7b8b9c50b1b2b3b4b5b6b7b8b9
  c60b1b2b3b4b5b6b7b8b9c70b1b2b3b4b5b6b7b8b9c80b1b2b3b4b5b6b7b8b9c90b1b2b3b4b5b6b7b8b9d600b1b2b3b4
  b5b6b7b8b9c10b1b2b3b4b5b6b7b8b9c20b1b2b3b4b5b6b7b8b9c30b1b2b3b4b5b6b7b8b9c40b1b2b3b4b5b6b7b8b9c50
  b1b2b3b4b5b6b7b8b9c60b1b2b3b4b5b6b7b8b9c70b1b2b3b4b5b6b7b8b9c80b1b2b3b4b5b6b7b8b9c90b1b2b3b4b5b6
  b7b8b9d700b1b2b3b4b5b6b7b8b9c10b1b2b3b4b5b6b7b8b9c20b1b2b3b4b5b6b7b8b9c30b1b2b3b4b5b6b7b8b9c40b1
  b2b3b4b5b6b7b8b9c50b1b2b3b4b5b6b7b8b9c60b1b2b3b4b5b6b7b8nITERATION_MARKtPE_CARTRIDGEjDRIVEiURUS
  eXIdEACUP_WITHOUT_HANDLEsPOTdR-OFF_CALENDARnDROP-BARBED_RIGHTWARDS_ARROWxSPOKED_ASTERISKwDDY_BEAR
  iLEPHONE_LOCATION_SIGNnON_TOP_OF_MODEMpRECEIVERa_WITH_PAGEpORDERiSIGNkSCOPEfVISION
  hUGU_AI_LENGTH_MARKoDIGIT_EIGHTfFIVEdOUReNINEeONEdSEVENeIXdTHREEeWOdZERO
  kFRACTION_DIGIT_ONE_FOR_EVEN_POWERS_OF_FOURtODD_POWERS_OF_FOURzbTHREE_FOR_EVEN_POWERS_OF_FOUR
  tODD_POWERS_OF_FOURzcWO_FOR_EVEN_POWERS_OF_FOURtODD_POWERS_OF_FOURzbZERO_FOR_ODD_POWERS_OF_FOUR
  zrLENGTH_MARKjTTER_AaAbIbUcBAbHAdCAbHAdDAbDAbHAdHAcZAdEaEcGAbHAdHAcIaIcJAbHAdKAbHAdLAbLAbLAeMAcNA
  aKAARA_POLLUmGAcNAcYAdOaOcPAbHAdRAbRAbRAeSAbHAcSAdTAbHAcSAcTAbHAeUaUcVAbOCALIC_LaLcRaRkYA
  jSIGN_ANUSVARAhVAGRAHAiCANDRABINDUkOMBINING_ANUSVARA_ABOVEoCANDRABINDU_ABOVEzcNUKTAfSIDDHAMhTUUMU
  fVIRAMAeSARGAmVOWEL_SIGN_AAbIbUcEaEcIaIcOaOcUaUcVOCALIC_LaLcRaRzbNGE_SIGNhNIS_RACQUET_AND_BALLuT
  cST_TUBEhTRAGRAM_FOR_ACCUMULATIONlDVANCEgGGRAVATIONkSCENTgBARRIERgOLD_RESOLUTIONoRANCHING_OUT
  nCENTREfHANGEfLOSED_MOUTHhNESSfUREgOMPLETIONfIANCEiNSTANCYgTACTdENTIONgRARIETYlDARKENING
  iECISIVENESSkFECTIVENESS_OR_DISTORTIONzPARTUREiIFFICULTIESkMINISHMENTjMINGfVERGENCEjOUBTeUTIES
  gEASEdMBELLISHMENTmNCOUNTERSiDEAVOURhLARGEMENTkTERNITYhXHAUSTIONkFAILUREgLIGHTfOLLOWINGhSTERING
  iULL_CIRCLEhNESSiGATHERINGa_INlOING_TO_MEETmREATNESSiUARDEDNESSlHARDNESShOLDING_BACKmINCREASEgNER
  fJOYdKEEPING_SMALLmINSHIPhLABOURINGhW_OR_MODELlEGIONgMASSINGgEASUREgIREDfON_THE_VERGElPPOSITION
  kPACKINGfTTERNgENETRATIONkURITYgREACHdLEASEfSIDENCEfSTANCEhPONSEhITUALgSEVERANCEiINKINGgTOPPAGE
  fVEdRENGTHiUNITYfVASTNESS_OR_WASTINGtWAITINGfTCHfYOUTHFULNESSzHAANA_AABAAFILIiBAFILIhEBEFILI
  gEBEEFILIiYBEYFILIjIBIFILIhLETTER_AINUdLIFUfBAAdCHAVIYANIjDAADHUeVIYANIhHAALUgFAAFUfGAAFUeHAINU
  fNAVIYANIjHAAcHAAeJAVIYANIiKAAFUeHAAeLAAMUeHAVIYANIjMEEMUfNAAcOONUfPAVIYANIiQAAFUfRAAdSAADHUfEENU
  eHAVIYANIhEENUgTAVIYANIhHAAaLUfObTAAeVAAVUfWAAVUfYAAdZAAbVIYANIhOjOABOAFILIiBOFILIgOBOOFILIjSUKUN
  fUBUFILIlI_CHARACTER_ANGKHANKHUkBO_BAIMAIjCHO_CHANaGdINGdOEiDO_CHADAfDEKgFO_FAaNeNGMANhHO_HIP
  dNOKHUKjKHO_KHAIcONcUATdWAIfRAKHANGiMUTfO_KAIgLAKKHANGYAOkO_CHULAfLINGgUcMAI_CHATTAWAiEKcHAN-AKAT
  iTHOcRIeTAIKHUgYAMOKhO_MAfNGO_NGUgIKHAHIThO_NENcUfO_ANGfPAIYANNOIiHINTHUfO_PHANcUNGfSAMPHAOkO_PLA
  gRO_RUAfUcSARA_AaAbEbI_MAIMALAIeUANjMcEbIaIcObUaEaEcUgO_RUSIeSALAdObUAgTHANTHAKHATjO_NANGMONTHO
  kPHUTHAOhTHAHANdNcONGdUNGiO_PATAKfTAOgWO_WAENhYAMAKKANhO_YAKcINGqURRENCY_SYMBOL_BAHTuDIGIT_EIGHT
  fFIVEdOUReNINEeONEdSEVENeIXdTHREEeWOdZEROnERE_DOES_NOT_EXISToEXISTShFOREfMODYNAMIChMETER
  jIN_GREEK_CROSSlSALTIREgPACEgKING_FACEkRD_PLACE_MEDALpONG_SANDALjUGHT_BALLOONnREE_BUTTON_MOUSE
  mCONSECUTIVE_EQUALS_SIGNSyDIMENSIONAL_ANGLEqOT_PUNCTUATIONpLEFTWARDS_ARROWSpINES_CONVERGING_LEFT
  eRIGHTwNETWORKED_COMPUTERStPOINTED_BLACK_STARsRAYS_ABOVEfBELOWfLEFTeRIGHTjIGHTWARDS_ARROWS
  rSPEECH_BUBBLESp-D_BOTTOM-LIGHTED_RIGHTWARDS_ARROWHEAD
  zkLEFT-LIGHTED_DOWNWARDS_EQUILATERAL_ARROWHEADztRIGHT-LIGHTED_UPWARDS_EQUILATERAL_ARROWHEAD
  zsTOP-LIGHTED_LEFTWARDS_EQUILATERAL_ARROWHEADzgRIGHTWARDS_ARROWHEADjEQUILATERAL_ARROWHEAD
  zvEM_DASHhPER-EM_SPACEqUMBS_DOWN_SIGNjUP_SIGNlNDER_CLOUD_AND_RAINpSTORM
  lIBETAN_ASTROLOGICAL_SIGN_-KHYUD_PAjSDONG_TSHUGSlGRA_GCAN_-CHAR_RTAGS
  zoCANTILLATION_SIGN_CANG_TE-UjHEAVY_BEATkLIGHT_BEATkSBUB_-CHALzdDIGIT_EIGHTfFIVEdOUReHALF_EIGHT
  fFIVEdOUReNINEeONEdSEVENeIXdTHREEeWOdZEROjNINEeONEdSEVENeIXdTHREEeWOdZEROkKU_RU_KHAa_BZHI_MIG_CAN
  wLETTER_-AcAbBAbHAdCAbHAdDAbDAbHAdHAcZAbHAeFIXED-FORM_RAnGAbHAdHAcJAcKAbHAcKAcSSAeLAcMAcNAbGAcNA
  cYAdPAbHAdRAbRAdSAbHAcSAdTAbHAcSAbHAdTAbHAeWAcYAcZAbHAjOGOTYPE_SIGN_CHAD_RTAGSkLHAG_RTAGS
  yMARK_ANG_KHANG_GYAScONoBKA-_SHOG_GI_MGO_RGYANmYIG_MGOqSDUS_RTAGSjKA-_SHOG_GI_MGO_RGYAN
  uUR_YIG_MGOnCARET_-DZUD_RTAGS_BZHI_MIG_CANmME_LONG_CANxYIG_MGO_PHUR_SHAD_MAzHE_MGO
  gLOSING_BRDA_RNYING_YIG_MGO_SGAB_MAzcYIG_MGO_SGAB_MAxDELIMITER_TSHEG_BSTARvGTER_TSHEG
  fYIG_MGO_-UM_GTER_TSHEG_MAnRNAM_BCAD_MAqTRUNCATED_AxUG_RTAGS_GYAScONoHALANTA
  hINITIAL_BRDA_RNYING_YIG_MGO_MDUN_MAzcYIG_MGO_MDUN_MAvTERSYLLABIC_TSHEGtLEADING_MCHAN_RTAGS
  tMNYAM_YIG_GI_MGO_RGYANwNGAS_BZUNG_NYI_ZLAhSGOR_RTAGSuYIS_SHADeTSHEGa_SHADpPALUTAgRGYA_GRAM_SHAD
  nIN_CHEN_SPUNGS_SHADuSBRUL_SHADjHADeTRAILING_MCHAN_RTAGStSA_-PHRUhHEG_SHADkYIG_MGO_TSHEG_SHAD_MA
  zbSIGN_GRU_CAN_RGYINGSlMED_RGYINGSpINVERTED_MCHU_CANrLCE_TSA_CANjI_RTAGSjMAR_TSHESiCHU_CAN
  iNYI_ZLA_NAA_DAoRDEL_DKAR_GCIGdNYISeSUMeRDEL_NAGnNAG_GCIGdNYISeSUMeRDEL_DKARrJES_SU_NGA_RO
  nNAM_BCADjSNA_LDANiYANG_RTAGSiR_TSHESnUBJOINED_LETTER_-AcAbBAbHAdCAbHAdDAbDAbHAdHAcZAbHA
  eFIXED-FORM_RAcWAcYAnGAbHAdHAcJAcKAbHAcSSAeLAcMAcNAbGAcNAcYAdPAbHAdRAcSAbHAcSAdTAbHAcSAbHAdTAbHA
  eWAcYAcZAbHAkSIGN_INVERTED_MCHU_CANrLCE_TSA_CANlMCHU_CANwYLLABLE_OMjMBOL_DRIL_BUhNOR_BU
  a_BZHI_-KHYILlGSUM_-KHYILlNYIS_-KHYILsPADMA_GDANjHUR_PAhRDO_RJEa_RGYA_GRAMyVOWEL_SIGN_AAcEaEcIaI
  cOaOcREVERSED_IaIlUaUcVOCALIC_LaLcRaRzcCKETeE_OVER_INFINITYpFINAGH_CONSONANT_JOINER
  qLETTER_AHAGGAR_YAZHlYER_YAGHjBERBER_ACADEMY_YAHbJsTAWELLEMET_YAZnUAREG_YAGHbNcHbKaHcNGcQbZHlYAaA
  bBaHcCHcDaDaHcHcFbGaHaHdHaHcJbKaHaHdLbMbNbPbQbRaRcSaHbScTaHbTcVbWbYbZaHbZdEaYcIbObU
  jMODIFIER_LETTER_LABIALIZATION_MARKzjSEPARATOR_MARKvGERa_FACEhHT_TRIFOLIATE_SNOWFLAKEyLDE
  a_OPERATORa_ABOVE_LEFTWARDS_ARROWpRIGHTWARDS_ARROWwWITH_DOT_ABOVEjRISING_DOTSzWITH_DOT_ABOVE
  fBELOWjRING_ABOVEtMER_CLOCKhS_WITH_LEFT_HALF_BLACKpRIGHT_HALF_BLACKzNY
  a_TWO_DOTS_OVER_ONE_DOT_PUNCTUATIONzlRED_FACEhHUTA_ABBREVIATION_SIGNqNJIeDIGIT_EIGHTfFIVEdOUR
  eNINEeONEdSEVENeIXdTHREEeWOdZEROkGVANGfLETTER_AaAbIbUcBAbHAdCAbHAdDAbDAbHAdHAdEbGAbHAdHAcIaIcJA
  bHAdKAbHAdLAcMAcNAbGAcNAcYAdObPAbHAdRAcSAbHAcSAdTAbHAcTAbHAeUaUcVAbOCALIC_LaLcRaRkYAjOM
  cSIGN_ANUSVARAhVAGRAHAiCANDRABINDUlNUKTAfVIRAMAeSARGAmVOWEL_SIGN_AAbIbUcEbIaIcObSHORT_EbOhUaU
  cVOCALIC_LaLcRaRzbONIAN_SIGN_CAPITAL_ETkETpOILETeKYO_TOWERjMATOeNGUEeOLBOXeTHaBRUSH
  iP_ARC_ANTICLOCKWISE_ARROWa_WITH_PLUSzeCLOCKWISE_ARROW_WITH_MINUSzfCURLY_BRACKET
  nHALF_BLACK_CIRCLEmINTEGRALiLEFT_PARENTHESISqRIGHT_PARENTHESISrSECTION_SIGNpTdLEFT_CORNERfROP
  eHALF_BRACKETrPARENTHESISlRIGHT_CORNERfROPeHALF_BRACKETsSQUARE_BRACKEToTORTOISE_SHELL_BRACKET
  wWITH_UPWARDS_ARROW_ABOVEzbRTOISE_SHELL_BRACKETED_CJK_UNIFIED_IDEOGRAPH-4E09c8Ce52DDdB89e6253d557
  d72Ce70B9d6D7zbLATIN_CAPITAL_LETTER_SzuTAL_RUNOUTjO_LETTER_AaEcBAbREATHY_AEcEaOcIaUkCHAdDAcEaOcGA
  cHAcIaUcJAcKAcLAcMAcNAbGAdObPAcRAcSAcTAcUbWAcYAjSIGN_RISING_TONEuRACKBALLfTOReDE_MARK_SIGNmINcM
  a_CARfNSPLUTOfVERSAL_INTERSECTIONwIANGLE_WITH_DOT_ABOVEjROUNDED_CORNERSpSERIFS_AT_BOTTOMqUNDERBAR
  o-HEADED_RIGHTWARDS_ARROWzbULAR_BULLETgFLAG_ON_POSTmRULERnCOLONfDENT_EMBLEMlGRAM_FOR_EARTHfFIRE
  eHEAVENgLAKEeMOUNTAINiTHUNDERhWATEReINDnPLE_COLON_OPERATORoDAGGER
  gHORIZONTAL_BAR_WITH_DOUBLE_VERTICAL_STROKEwTRIPLE_VERTICAL_STROKEzrINTEGRALiNESTED_GREATER-THAN
  mLESS-THANqPLUSdRIMEfSOLIDUS_BINARY_RELATIONxTILDEfVERTICAL_BAR_BINARY_RELATIONpDELIMITER
  jRIGHT_TURNSTILEpWITH_HORIZONTAL_STROKEzpOLLaEYBUShPHYcICAL_DRINKfFISHlUEa_LIGHT_MOON_ARTArMPET
  gUGRIK_SIGNjLIPdMBLER_GLASSlRKEYcISH_LIRA_SIGNoNED_AMPERSANDiNGLEfBLACK_PENTAGONiSHOGI_PIECE
  rCAPITAL_FiOMMAfDAGGERfIGIT_THREEeWOjGREEK_SMALL_LETTER_IOTAxNORTH_EAST_POINTING_LEAF
  sWEST_POINTING_LEAFwT_SIGNiOK_HAND_SIGNmSANS-SERIF_CAPITAL_GbLbYtEMICOLONiMALL_F
  gOUTH_EAST_POINTING_LEAFsWEST_POINTING_LEAFyWHITE_SHOGI_PIECEvTLEfWELVE_POINTED_BLACK_STAR
  xISTED_RIGHTWARDS_ARROWSxO_ASTERISKS_ALIGNED_VERTICALLYzdBUTTON_MOUSEmCONSECUTIVE_EQUALS_SIGNS
  yDOT_LEADERgPUNCTUATIONmS_OVER_ONE_DOT_PUNCTUATIONzeHEARTSgINTERSECTING_LOGICAL_ANDdOR
  xJOINED_SQUARESoLOGICAL_AND_OPERATORmOR_OPERATORtMEN_HOLDING_HANDSrSPEECH_BUBBLES
  oWOMEN_HOLDING_HANDSu-EM_DASHlUGARITIC_LETTER_AINcLPAeBETAeDELTAeHALeGAMLAeHAINfHOaTAeIbKAFcHA
  dLAMDAfMEMdNUNdPUcQOPAeRASHAfSADEcMKAeHINdSUdTETcHANNAfOcUbWOcYODdZETAdUjWORD_DIVIDERuMBRELLA
  a_ON_GROUNDjWITH_RAIN_DROPSxNAMUSED_FACElCERTAINTY_SIGNoDERTIEfO_SYMBOLjICORN_FACEjON
  a_ABOVE_BAR_ABOVE_INTERSECTIONwINTERSECTIONsBESIDE_AND_JOINED_WITH_UNIONzdWITH_LOGICAL_OR
  kMINUS_SIGNkOVERBARpT_SEPARATORkED_SYMBOLkVERSAL_RECYCLING_SYMBOLyMARRIED_PARTNERSHIP_SYMBOL
  zcP_ARROW_THROUGH_CIRCLEpHEADa_BETWEEN_TWO_HORIZONTAL_BARSzcIN_A_RECTANGLE_BOX
  zdBARB_LEFT_DOWN_BARB_LEFT_HARPOONmRIGHT_HARPOONzdRIGHT_DOWN_BARB_LEFT_HARPOONmRIGHT_HARPOON
  zjDOWN_ARROWa_WITH_BASEpBLACK_ARROWlDOUBLE_ARROWmSANS-SERIF_ARROWqTRIANGLE-HEADED_ARROW
  vWHITE_ARROWqFISH_TAILjRIGHT_DIAGONAL_ELLIPSISxTACKa_WITH_CIRCLE_ABOVEx-POINTING_AIRPLANE
  iMILITARY_AIRPLANErRED_TRIANGLEmSMALL_AIRPLANEiRED_TRIANGLEsTRIANGLE_WITH_LEFT_HALF_BLACK
  pRIGHT_HALF_BLACKzpPER_AND_LEFT_AND_LOWER_TRIANGULAR_THREE_QUARTERS_BLOCKzuOWER_ONE_EIGHTH_BLOCK
  qTRIANGULAR_HALF_BLOCKzcRIGHT_AND_LOWER_TRIANGULAR_THREE_QUARTERS_BLOCKzzbBLADE_SCISSORS
  oFIVE_EIGHTHS_BLOCKsHALF_BLOCKa_AND_LOWER_HALF_INVERSE_MEDIUM_SHADEzqCIRCLE
  gINVERSE_MEDIUM_SHADE_AND_LOWER_HALF_BLOCKziWHITE_CIRCLEuMEDIUM_SHADE
  rLEFT_BLOCK_DIAGONAL_LOWER_CENTRE_TO_LOWER_MIDDLE_RIGHTsUPPER_MIDDLE_RIGHTmRIGHT
  vLEFT_TO_LOWER_MIDDLE_RIGHTsUPPER_CENTREgMIDDLE_RIGHTzbMIDDLE_LEFT_TO_UPPER_CENTREgMIDDLE_RIGHT
  mRIGHTzhUPPER_MIDDLE_LEFT_TO_UPPER_CENTREgRIGHTzwCORNER_WITH_DOT
  pOR_LOWER_RIGHT_CURLY_BRACKET_SECTIONzlQUADRANT_CIRCULAR_ARCvTO_LOWER_RIGHT_FILLsRIANGLE
  cULAR_MEDIUM_SHADEzdONE_EIGHTH_BLOCKmQUARTER_BLOCK
  rRIGHT_BLOCK_DIAGONAL_LOWER_MIDDLE_LEFT_TO_LOWER_CENTREgRIGHTzhUPPER_CENTRE_TO_LOWER_MIDDLE_RIGHT
  mRIGHTlUPPER_MIDDLE_RIGHTzdLEFT_TO_LOWER_CENTREgMIDDLE_RIGHTsUPPER_MIDDLE_RIGHT
  zbMIDDLE_LEFT_TO_LOWER_CENTREgMIDDLE_RIGHTmRIGHTzwDROP-SHADOWED_WHITE_SQUARE
  zbOR_LOWER_LEFT_CURLY_BRACKET_SECTIONzkPENCILgQUADRANT_CIRCULAR_ARCvSHADOWED_WHITE_CIRCLEgSQUARE
  vTO_LOWER_LEFT_FILLrRIANGLEcULAR_MEDIUM_SHADEzeSEVEN_EIGHTHS_BLOCKtTHREE_EIGHTHS_BLOCK
  nQUARTERS_BLOCKtRIANGULAR_ONE_QUARTER_BLOCKzhSIDE-DOWN_FACEoWARDS_ANCORAfRROW
  a_AND_RIGHT_ONE_EIGHTH_BLOCKzbFROM_BARiLEFTWARDS_OF_DOWNWARDS_ARROWzdTO_BARgWITH_DOUBLE_STROKE
  nEQUILATERAL_ARROWHEADvHORIZONTAL_STROKErLARGE_TRIANGLE_ARROWHEADyMEDIUM_TRIANGLE_ARROWHEAD
  zNOTCHED_TAILmSMALL_EQUILATERAL_ARROWHEADvTRIANGLE_ARROWHEADyTIP_LEFTWARDSjRIGHTWARDSzBLACK_ARROW
  fCIRCLED_WHITE_ARROWzCOMPRESSED_ARROWqDASHED_ARROWlOUBLE_ARROWmFINGER-POST_ARROW
  rHARPOON_WITH_BARB_LEFT_BESIDE_DOWNWARDS_HARPOON_WITH_BARB_RIGHTziUPWARDS_HARPOON_WITH_BARB_RIGHT
  znFROM_BARiTO_BARhWARDSjRIGHT_FROM_BARiTO_BARhWARDSzcEAVY_ARROWfCOMPRESSED_ARROWwPAIRED_ARROWS
  nQUADRUPLE_ARROWpROCKETgSANS-SERIF_ARROWpQUARED_ARROWnTRIANGLE_ARROWHEADk-HEADED_ARROW
  a_LEFTWARDS_OF_DOWNWARDS_TRIANGLE-HEADED_ARROWztTO_BARgWITH_BOLD_SHAFTkDOUBLE_HORIZONTAL_STROKE
  yHEAVY_SHAFTlLONG_TIP_LEFTWARDSjRIGHTWARDStMEDIUM_SHAFTmNARROW_SHAFTmVERY_HEAVY_SHAFT
  zcDASHED_ARROWmPAIRED_ARROWSzbPLE_ARROWlWO_HEADED_ARROWn-HEADED_ARROW_FROM_SMALL_CIRCLE
  rWITH_TRIANGLE_ARROWHEADSzqWHITE_ARROWa_FROM_BARa_WITH_HORIZONTAL_BARzdON_PEDESTAL
  a_WITH_HORIZONTAL_BARoVERTICAL_BARzeWITHIN_TRIANGLE_ARROWHEADzgDOUBLE_ARROWa_ON_PEDESTALzmRANUSfS
  cVAI_COMMAfDIGIT_EIGHTfFIVEdOUReNINEeONEdSEVENeIXdTHREEeWOdZEROkFULL_STOPjQUESTION_MARK
  nSYLLABLE_AaNcBAbEaEcHAbEaEcIbOaOcUcIbOaOcUcCAbEaEcIbOaOcUcDAbEaEcHAbEaEcHAbEaEcIbOaOcUcIbOaOcUcI
  bOaOcUcEaEaNcNcFAbEaEcIbOaOcUcGAbBAbEaEbNcIbOaNbOcUcEaEbNcIbOaOcUcHAaNcEaEbNcIaNcOaNbOcUaNdIaNcJA
  bEaEcIbOaOcUcKAaNcEaEcIbOaOcPAaNcEaEbNcIbOaOcUcUcLAbEaEbNGTHENERjIbOaOcUcMAbBAbEaEcIbOaOcUcEaE
  cGBAbEaEcIbOaOcUdIbOaOcUcNAbDAbEaEcIbOaLE_DOcFAcKAcMAcSOOgOcUcEaEcGaANcENcGAbEaEbNcIbOaOcUcONdI
  bJAbEaEcIbOaOcUcOaOcUbYAbEaEcIbOaOcUdOaNbOaNdPAbEaEcIbOaOcUcRAbEaEcIbOaOcUcSAbEaEcHAbEaEcIbOaOcU
  cIbOaOcUcTAbEaEcHAbEaEcIbOaOcUcIbOaOcUcUaNcVAbEaEcIbOaOcUcWAaNcEaEaNcNcIaNcOaNbOaNdUaNdYAbEaEcIbO
  aOcUcZAbEaEcHAbEaEcIbOaOcUcIbOaOcUjMBOL_BANGeDANGdO-OcONGfFAAcEENGfJONGeKEENGeUNGeNIIdTAAcINGdONG
  nMPIREfRIATION_SELECTOR-1a0a0b1b2b3b4b5b6b7b8b9c1a0b1b2b3b4b5b6b7b8b9c2a0b1b2b3b4b5b6b7b8b9c3a0b1
  b2b3b4b5b6b7b8b9c4a0b1b2b3b4b5b6b7b8b9c5a0b1b2b3b4b5b6b7b8b9c6a0b1b2b3b4b5b6b7b8b9c7a0b1b2b3b4b5
  b6b7b8b9c8a0b1b2b3b4b5b6b7b8b9c9a0b1b2b3b4b5b6b7b8b9d2a0a0b1b2b3b4b5b6b7b8b9c1a0b1b2b3b4b5b6b7b8
  b9c2a0b1b2b3b4b5b6b7b8b9c3a0b1b2b3b4b5b6b7b8b9c4a0b1b2b3b4b5b6b7b8b9c5a0b1b2b3b4b5b6c6b7b8b9c3a0
  b1b2b3b4b5b6b7b8b9c4a0b1b2b3b4b5b6b7b8b9c5a0b1b2b3b4b5b6b7b8b9c6a0b1b2b3b4b5b6b7b8b9c7a0b1b2b3b4
  b5b6b7b8b9c8a0b1b2b3b4b5b6b7b8b9c9a0b1b2b3b4b5b6b7b8b9uECTOR_OR_CROSS_PRODUCT
  vDIC_SIGN_ANUSVARA_ANTARGOMUKHAmBAHIRGOMUKHAmUBHAYATO_MUKHAoVAMAGOMUKHAa_WITH_TAILzeRDHAVISARGA
  lTIKRAMAiDOUBLE_ANUSVARA_ANTARGOMUKHAzdHEXIFORM_LONG_ANUSVARAwJIHVAMULIYAlLONG_ANUSVARAnNIHSHVASA
  jREVERSED_VISARGA_ANUDATTAiUDATTAwOTATED_ARDHAVISARGAtTHANG_LONG_ANUSVARAuTIRYAKgUPADHMANIYA
  lVISARGA_ANUDATTAa_WITH_TAILsSVARITAhUDATTAa_WITH_TAILyYAJURVEDIC_MIDLINE_SVARITA
  zgTONE_ATHARVAVEDIC_INDEPENDENT_SVARITAzhCANDRA_ABOVEfBELOWmDOT_BELOWhUBLE_RING_ABOVEkSVARITA
  oKARSHANAgTHAKA_ANUDATTAqPRENKHAhRIGVEDIC_KASHMIRI_INDEPENDENT_SVARITAzkNG_ABOVEkSHARA
  fTHREE_DOTS_BELOWpRIPLE_SVARITAnWO_DOTS_BELOWoYAJURVEDIC_AGGRAVATED_INDEPENDENT_SVARITA
  zfINDEPENDENT_SVARITAtKATHAKA_INDEPENDENT_SVARITAa_SCHROEDERzzhRSICLE
  fTICAL_BAR_BESIDE_RIGHT_TRIANGLEvDOUBLE_LEFT_TURNSTILEvTRIPLE_RIGHT_TURNSTILE
  wWITH_HORIZONTAL_STROKEzbELLIPSISiFOUR_DOTSjIDEOGRAPHIC_ITERATION_MARKzbKANA_REPEAT_MARK
  a_LOWER_HALFkUPPER_HALFpWITH_VOICED_SOUND_MARKa_UPPER_HALFzuLINEa_EXTENSIONjWITH_CIRCLE_ABOVE
  fBELOWmMIDDLE_DOTuMALE_WITH_STROKE_SIGNvONE_EIGHTH_BLOCK-2b3b4b5b6b7sSIX_DOTSiTAB_KEYeULATION
  a_SETnILDEeRAFFIC_LIGHTnZIGZAG_LINErY_BOLD_GREEK_CROSSqHEAVY_EIGHT_POINTED_BLACK_STAR
  sSPOKED_ASTERISKvFIVE_SPOKED_ASTERISKuGREEK_CROSSlREVERSE_SOLIDUSpSALTIREgIX_SPOKED_ASTERISK
  sOLIDUShWHITE_CIRCLEgSQUAREsMUCH_GREATER-THANmLESS-THANrSTAeIBRATION_MODEmCTORY_HANDkDEO_CAMERA
  gGAMEfCASSETTElETNAMESE_ALTERNATE_READING_MARK_CAcNHAYzkWDATA_SQUAREnOLINeRGO
  dTHKUQI_CAPITAL_LETTER_AbBBEcEcCEbHEdDEbHEdEaIcFEcGAcHAbHAdIaJEdJEcKAcLAbLAdMEcNEbJEdObPEcQAcRE
  cSEbHEdTEbHEdUbVEcXEcYbZErSMALL_LETTER_AbBBEcEcCEbHEdDEbHEdEaIcFEcGAcHAbHAdIaJEdJEcKAcLAbLAdMEcNE
  bJEdObPEcQAcREcSEbHEdTEbHEdUbVEcXEcYbZExOIDED_GREEK_CROSSqLCANOeLEYBALLhUME_INTEGRALoS1a0a0b1b2b3
  b4b5b6b7b8b9c1a0b1b2b3b4b5b6b7b8b9c2a0b1b2b3b4b5b6b7b8b9c3a0b1b2b3b4b5b6b7b8b9c4a0b1b2b3b4b5b6b7
  b8b9c5a0b1b2b3b4b5b6b7b8b9c6a0b1b2b3b4b5b6b7b8b9c7a0b1b2b3b4b5b6b7b8b9c8a0b1b2b3b4b5b6b7b8b9c9a0
  b1b2b3b4b5b6b7b8b9d2a0a0b1b2b3b4b5b6b7b8b9c1a0b1b2b3b4b5b6b7b8b9c2a0b1b2b3b4b5b6b7b8b9c3a0b1b2b3
  b4b5b6b7b8b9c4a0b1b2b3b4b5b6b7b8b9c5a0b1b2b3b4b5b6c6b7b8b9c3a0b1b2b3b4b5b6b7b8b9c4a0b1b2b3b4b5b6
  b7b8b9c5a0b1b2b3b4b5b6b7b8b9c6a0b1b2b3b4b5b6b7b8b9c7a0b1b2b3b4b5b6b7b8b9c8a0b1b2b3b4b5b6b7b8b9c9
  a0b1b2b3b4b5b6b7b8b9dTaScULCANUSfGAR_FRACTION_FIVE_EIGHTHShSIXTHSkOUR_FIFTHSlONE_EIGHTHgFIFTH
  fHALFeNINTHfQUARTERhSEVENTHgIXTHfTENTHeHIRDjSEVEN_EIGHTHSnTHREE_EIGHTHShFIFTHSgQUARTERSnWO_FIFTHS
  gTHIRDSkZERO_THIRDSzcWAFFLEeNCHO_DIGIT_EIGHTfFIVEdOUReNINEeONEdSEVENeIXdTHREEeWOdZEROkLETTER_AaA
  aNaGdNGcUcBAcCAcDAcEaNcFAcGAcHAcIaNGdJAcKAbHAdLAbLHAeMAcNAbGAcYAdOaNaGdPAbHAdRAcSAbHAdTAbHAcRAcSA
  dUaENdVAcWAcYAbIHdZAjNGUN_SIGNjTONE_KOIaNIfTUPaNIoING_CRESCENT_MOON_SYMBOLuGIBBOUS_MOON_SYMBOL
  yRANG_CITI_CAPITAL_LETTER_AaMbNGcTcBUcDAcEaNNbYdGAcHARcIYOdOLOcRReIIcKOcNGAAdUNGeOaDDdPUcSIIcSUU
  eTTEdUCbUcVIYOeWIcYAbObUaJsDIGIT_EIGHTfFIVEdOUReNINEeONEdSEVENeIXdTHREEeWOdZEROkNUMBER_EIGHTY
  gFIFTYeORTYfNINETYgSEVENTYgIXTYfTENcHIRTYfWENTYnOMcSMALL_LETTER_AaMbNGcTcBUcDAcEaNNbYdGAcHARcIYO
  dOLOcRReIIcKOcNGAAdUNGeOaDDdPUcSIIcSUUeTTEdUCbUcVIYOeWIcYAbObUaJzNING_SIGNkSTEBASKETjTCH
  cER_BUFFALOhCLOSETgPOLOeWAVEfMELONiVE_ARROW_POINTING_DIRECTLY_LEFTeRIGHTzeDASHgING_BLACK_FLAG
  kHAND_SIGNjWHITE_FLAGoY_DASHeLINEdOW_LINEiOVERLINElXING_CRESCENT_MOON_SYMBOLuGIBBOUS_MOON_SYMBOL
  zEARY_CAT_FACEiFACEiDDINGeGE-TAILED_RIGHTWARDS_ARROWzcIERSTRASS_ELLIPTIC_FUNCTIONzbGHT_LIFTER
  lST_SYRIAC_CROSSqHALEdEELa_OF_DHARMAkCHAIR_SYMBOLpITE_ARROW_SHAFT_WIDTH_ONEdTWO_THIRDSzdBULLET
  gCHESS_BISHOPa_ROTATED_NINETY_DEGREESoTWO_HUNDRED_SEVENTY_DEGREESzrEQUIHOPPER
  a_ROTATED_NINETY_DEGREESziKINGa_ROTATED_NINETY_DEGREESoTWO_HUNDRED_SEVENTY_DEGREESzoNIGHT
  a_ROTATED_FORTY-FIVE_DEGREESsNINETY_DEGREESoONE_HUNDRED_THIRTY-FIVE_DEGREES
  zgTHREE_HUNDRED_FIFTEEN_DEGREESzdWO_HUNDRED_SEVENTY_DEGREESpTWENTY-FIVE_DEGREESzp-BISHOPgQUEEN
  fROOKlPAWNa_ROTATED_NINETY_DEGREESoTWO_HUNDRED_SEVENTY_DEGREESzpQUEENa_ROTATED_NINETY_DEGREES
  oTWO_HUNDRED_SEVENTY_DEGREESzqROOKa_ROTATED_NINETY_DEGREESoTWO_HUNDRED_SEVENTY_DEGREES
  zpTURNED_BISHOPgKINGdNIGHTgPAWNeQUEENfROOKqIRCLEa_CONTAINING_BLACK_SMALL_CIRCLEzeWITH_DOT_RIGHT
  hWN_ARROWkLOWER_LEFT_QUADRANTnRIGHT_QUADRANTuTWO_DOTSiUPPER_LEFT_QUADRANTnRIGHT_QUADRANT
  zgLUB_SUITiONCAVE-SIDED_DIAMONDa_WITH_LEFTWARDS_TICKoRIGHTWARDS_TICKzrDIAMOND
  a_CONTAINING_BLACK_MEDIUM_DIAMONDoSMALL_DIAMONDnVERY_SMALL_DIAMONDzkIN_SQUAREjSUIT
  eWITH_CENTRED_DOTxOWN_POINTING_BACKHAND_INDEXoINDEXfLEFT_HAND_INDEXz-POINTING_SMALL_TRIANGLE
  oTRIANGLEvRAUGHTS_KINGeMANmEXCLAMATION_MARK_ORNAMENTzFLAGa_WITH_HORIZONTAL_MIDDLE_BLACK_STRIPE
  znORETTEfWERfOUR_POINTED_CUSPeSTARqROWNING_FACEnHARD_SHELL_FLOPPY_DISKvEARTa_SUIThVY_CHECK_MARK
  kSALTIRE_WITH_ROUNDED_CORNERSzhXAGONgORIZONTAL_ELLIPSEqURGLASSjLARGE_SQUAREkTIN_CROSS
  kEFT_LANE_MERGEkPOINTING_BACKHAND_INDEXoINDEXp-POINTING_POINTERhSMALL_TRIANGLEoTRIANGLE
  vOZENGE_CONTAINING_BLACK_SMALL_LOZENGEznMEDIUM_DIAMONDhLOZENGEhSMALL_SQUARElQUAREfTARkOON_SELENA
  lNIBdPARALLELOGRAMmENNANTeTAGONiQUESTION_MARK_ORNAMENTwRECTANGLEiIGHT_POINTING_BACKHAND_INDEX
  oINDEXp-POINTING_PENTAGONhOINTERhSMALL_TRIANGLEoTRIANGLExSCISSORShESAME_DOTjHOGI_PIECE
  kMALL_LOZENGEhSQUAREfTARiILING_FACElPADE_SUITjQUAREa_BUTTONgCONTAINING_BLACK_MEDIUM_SQUARE
  nSMALL_SQUAREmVERY_SMALL_SQUAREzjWITH_CENTRE_VERTICAL_LINEuLEFTWARDS_TICKnOWER_LEFT_QUADRANT
  nRIGHT_QUADRANTuRIGHTWARDS_TICKoOUNDED_CORNERSpUPPER_LEFT_QUADRANTnRIGHT_QUADRANT
  uVERTICAL_BISECTING_LINEzjTARdUNa_BEHIND_CLOUDa_WITH_RAINwWITH_RAYSeSMALL_CLOUDuTELEPHONE
  iOUCHTONE_TELEPHONEsRAPEZIUMhIANGLE_CONTAINING_SMALL_WHITE_TRIANGLEzoWO-WAY_LEFT_WAY_TRAFFIC
  yUP_POINTING_BACKHAND_INDEXoINDEXp-POINTING_CHEVRONhSMALL_TRIANGLEoTRIANGLEa_WITH_DOT
  zeVERTICAL_BARdELLIPSEhRECTANGLEpY_SMALL_SQUAREs-FEATHERED_RIGHTWARDS_ARROW
  zgIDE-HEADED_DOWNWARDS_BARB_ARROWkHEAVY_BARB_ARROWqLIGHT_BARB_ARROWqMEDIUM_BARB_ARROW
  rVERY_HEAVY_BARB_ARROWzgLEFTWARDS_BARB_ARROWkHEAVY_BARB_ARROWqLIGHT_BARB_ARROWqMEDIUM_BARB_ARROW
  rVERY_HEAVY_BARB_ARROWzgNORTH_EAST_BARB_ARROWkHEAVY_BARB_ARROWqLIGHT_BARB_ARROWqMEDIUM_BARB_ARROW
  rVERY_HEAVY_BARB_ARROWzbWEST_BARB_ARROWkHEAVY_BARB_ARROWqLIGHT_BARB_ARROWqMEDIUM_BARB_ARROW
  rVERY_HEAVY_BARB_ARROWzhRIGHTWARDS_BARB_ARROWkHEAVY_BARB_ARROWqLIGHT_BARB_ARROWqMEDIUM_BARB_ARROW
  rVERY_HEAVY_BARB_ARROWzhSOUTH_EAST_BARB_ARROWkHEAVY_BARB_ARROWqLIGHT_BARB_ARROWqMEDIUM_BARB_ARROW
  rVERY_HEAVY_BARB_ARROWzbWEST_BARB_ARROWkHEAVY_BARB_ARROWqLIGHT_BARB_ARROWqMEDIUM_BARB_ARROW
  rVERY_HEAVY_BARB_ARROWzhUPWARDS_BARB_ARROWkHEAVY_BARB_ARROWqLIGHT_BARB_ARROWqMEDIUM_BARB_ARROW
  rVERY_HEAVY_BARB_ARROWzoGGLY_VERTICAL_LINEsLTED_FLOWERlND_BLOWING_FACEmCHIMEgOWdE_GLASShKING_FACE
  kRED_KEYBOARDnJbOLF_FACEhMANa_WITH_BUNNY_EARSqS_BOOTSfCLOTHEShHATdSANDALkENS_SYMBOLlN_SIGNgOD
  cRD_JOINERgSEPARATOR_MIDDLE_DOTwLD_MAPgMbRIED_FACElRAPPED_PRESENTnEATH_PRODUCTlNCHdSTLERS
  hITING_HANDmX_IN_A_RECTANGLE_BOXt-RAYeIANGQI_BLACK_CANNONfHARIOThELEPHANTiGENERALhHORSEfMANDARIN
  iSOLDIERnRED_CANNONfHARIOThELEPHANTiGENERALhHORSEfMANDARINiSOLDIERsORdYAWNING_FACElELLOW_HEART
  kN_SIGNgZIDI_COMBINING_HAMZA_MARKkMADDA_MARKuHYPHENATION_MARKqLETTER_BEcCHHIMdIMdIMdDADbLdELIFdT
  bWbYNdFAcGAFdHAYcHAdJAcKAFcHAFeLAMa_WITH_DOT_ABOVEsMIMdNUNdOWcPEbHEdQAFdRAbHAdSADcEbHINdINdTAbHE
  dUMcVAa_ALTERNATE_FORMrWAWdXAbHEYNfYOTa_WITH_CIRCUMFLEX_ABOVEzZAaLcEpI_RADICAL_BBUTdURdCHEcIPcUOP
  dYaPbTdDDURdUcGAbEPcGOPcUOdOTdHMOcXITcOPcUOeJJIEcUTcYcOcKEbITdLIaEcYRdMIbOPdNBIEdYIPcOPdZUPeOP
  cPUTcYTdQOTdSHATcOPcURcYcSIdTATcUcVEPcURdWOcYITcOcZAbOTcUPbRcZIETnSYLLABLE_AaPbTbXcBAaPbTbXcBAaP
  bTbXcEaPbXcIaEaPbTbXcPbTbXcOaPbTbXcUaOaPbXcPbRaXcTbXcYaPbTbXdEaPbXcIaEaPbTbXcPbTbXcOaPbTbXcUaOaP
  bXcPbRaXcTbXcYaPbRaXcTbXdCAaPbTbXcEaPbXcHAaPbTbXcEaPbTbXcOaPbTbXcUaOaPbTbXcPbRaXcXcYaPbRaXcTbXdI
  aEaPbTbXcPbTbXcOaPbTbXcUaOaPbXcPbRaXcTbXcYaPbRaXcTbXdDAaPbTbXcDAaPbTbXcEaPbXcIaEaPbXcPbTbXcOaPbT
  bXcUaOaPbXcPbRaXcTbXdEaPbXcIaEaPbXcPbTbXcOaPbTbXcUaOaXcPbRaXcTbXdEaXcFAaPbTbXcIaPbTbXcOaPbXcUaPbR
  aXcTbXcYaPbTbXdGAaPbTbXcEaPbTbXcGAaPbTbXcEaPbTbXcIaEaPbXcTbXcOaPbTbXcUaOaPbTbXcPbRaXcTbXdIaEaPbT
  bXcPbTbXcOaPbTbXcUaOaPbTbXcPbRaXcTbXdHAaPbTbXcEaPbXcIEaXcTcLAaPbTbXcEaPbXcIaEaPbXcPbTbXcOaPbXcUaO
  aPbXcPbRaXcTbXcYaPbRaXcTbXdMAaPbTbXcIaEaPbXcPbTbXcOaPbTbXcUaOaPbXcPbRaXcTbXcYaPbRaXcXdNAaPbTbXcE
  aPbXcIaEaPbTbXcPbTbXcOPbTbXcUOaXcTdOaPbTbXcUOaPbTbXdXAaPbTbXcEaPbXcIaEaPbTbXcPbTbXcOaPbTbXcUOaPbT
  bXfIaEaPbTbXcPbTaERATION_MARKnXcJIaEaPbTbXcPbTbXcJIaEaPbTbXcPbTbXcOaPbTbXcUaOaPbXcPbRaXcTbXcYaPbT
  bXdOaPbTbXcUaOaPbTbXcPbRaXcTbXcYaPbRaXcTbXdKAaPbTbXcEaPbTbXcIaEaPbXcPbTbXcOaPbTbXcUaOaPbXcPbRaXcT
  bXdLAaPbTbXcEaPbXcIaEaPbTbXcPbTbXcOaPbTbXcUaOaPbTbXcPbRaXcTbXcYaPbRaXcTbXdMAaPbTbXcEaXcGAaPbTbXcE
  aPbXcIEaXdOaPbTbXcUaOaPbXcPbRaXcTbXdIaEaPbXcPbTbXcOaPbTbXcUaOaPbTbXcPbRaXcTbXcYaPbTbXdNAaPbXcBAaP
  bTbXcIaEaPbXcPbTbXcOaPbTbXcUaPbRaXcTbXcYaPbRaXcTbXdDAaPbTbXcEaPbXcIaEaXcPbTbXcOaPbTbXcUaPbRaXcTbX
  dEaPbXcGAaPbTbXcEaPbXcIEaPbXdOaPbTbXcUOaTbXeIaEaPbXcPbTbXcJIaEaPbTbXcPbTbXcOaPbTbXcUaOaXcPbRaXcX
  cYaPbRaXcTbXdOaPbTbXcRAaPbTbXcEaPbTbXcOaPbXcUaPbRaXcTbXcYaPbRaXcTbXdUaOaPbXcPbRaXcTbXcYIaEaPbTbX
  cPbTbXcOaPbTbXcUaOaPbXcPbTbXdZAaPbTbXcEaXcIaEaPbXcPbTbXcOPbXcUaOaXcPbRaXcXcYaPbRaXcTbXeOaPbTbXcPA
  aPbTbXcIaEaPbXcPbTbXcOaPbTbXcUaOaPbXcPbRaXcTbXcYaPbRaXcTbXdQIaEaPbTbXcPbTbXcOaPbTbXcUaOaPbTbXcPbR
  aXcTbXcYaPbRaXcTbXdRAaPbTbXcEaPbXcOaPbTbXcRAaXcEaPbTbXcOaPbTbXcUaOaXcPbRaXcTbXcYaPbRaXcTbXdUaOaP
  bXcPbRaXcTbXcYaPbRaXcTbXdSAaPbTbXcEaPbXcHAaPbTbXcEaPbTbXcOaPbTbXcUaOaPbXcPbRaXcTbXcYaPbRaXcTbXdI
  aEaPbXcPbTbXcOaPbTbXcSAaPbTbXcEaPbXcIaEaPbXcPbTbXcOaPbTbXcUaPbTbXcYaPbRaXcTbXdUaOaPbXcPbRaXcTbXcY
  aPbRaXcTbXdTAaPbTbXcEaPbXcIaEaPbXcPbTbXcOaPbTbXcUaOaPbTbXcPbRaXcTbXdUOaPbXdVAaPbTbXcEPbXcIaEaPbT
  bXcPbTbXcOaPbTbXcUaPbRaXcTbXcYaPbRaXcTbXdWAaPbTbXcEaPbXcOaPbXcUaOaPbXeXIaEaPbTbXcPbTbXcOaPbTbXcUO
  aXdYaPbRaXcTbXdYIaEaPbTbXcPbTbXcOaPbTbXcUaOaPbTbXcPbRaXcTbXcYaPbRaXcTbXdZAaPbTbXcEaPbXcHAaPbTbXcE
  aPbTbXcOaPbTbXcUaOaPbXcPbRaXcTbXcYaPbRaXcTbXdIaEaPbXcPbTbXcOaPbTbXcUaOaPbXcPbRaXcTbXcYaPbRaXcTbX
  cZAaPbTbXcEaPbXcIaEaPbTbXcPbTbXcOaPbXcUaPbRaXcXcYaPbRaXcTbXoN_YANGhO-YOfZ_NOTATION_BAG_MEMBERSHIP
  oDOMAIN_ANTIRESTRICTIONwLEFT_BINDING_BRACKETpIMAGE_BRACKETsRANGE_ANTIRESTRICTION
  uELATIONAL_COMPOSITIONvIGHT_BINDING_BRACKETpIMAGE_BRACKETtSCHEMA_COMPOSITIONlPIPINGfROJECTIONqPOT
  eTYPE_COLONuANABAZAR_SQUARE_CLOSING_DOUBLE-LINED_HEAD_MARKwHEAD_MARKpUSTER-FINAL_LETTER_LAcRAcVA
  cYApINITIAL_LETTER_RAzFINAL_CONSONANT_MARKuINITIAL_DOUBLE-LINED_HEAD_MARKwHEAD_MARKrLETTER_-AcA
  bBAbHAdCAbHAdDAbDAbHAdHAcZAbHAeGAbHAdHAcJAcKAbHAcSSAeLAcMAcNAbGAcNAcYAdPAbHAdRAcSAbHAcSAdTAbHAcSA
  bHAdTAbHAeVAcYAcZAbHAkMARK_DOUBLE_SHADlLONG_TSHEGkSHADeTSHEGkSIGN_ANUSVARAiCANDRA_WITH_ORNAMENT
  oBINDUa_WITH_ORNAMENTzVIRAMAeSARGAlUBJOINERjVOWEL_LENGTH_MARKlSIGN_AIbUcEbIbOaEcREVERSED_IkUaE
  zeEBRA_FACEiRO_WIDTH_JOINERgNO-BREAK_SPACEmN-JOINERkSPACEoUSdIPPER-MOUTH_FACE
  qNAMENNY_COMBINING_ATTACHING_VERTICAL_OMETxLOWER_TONAL_RANGE_INDICATORzcMARK_BORZAYAhCHASHKA
  a_POLNAYAoURVED_OMETlDEMESTVENNY_ZADERZHKAuVOETOCHIEkGORAZDO_NIZKO_ON_LEFTeRIGHT
  iS_KRYZHEM_ON_LEFTeRIGHTyVYSOKOoKACHKAfRYZHa_ON_LEFTmUPNAYAhLOMKAfMALO_POVYSHE_ON_LEFTeRIGHT
  iS_KHOKHLOM_ON_LEFTeRIGHTqRYZHEMiTRANNOuNIZKO_ON_LEFTeRIGHTiS_KRYZHEM_ON_LEFTeRIGHTyOBLACHKOhN
  bTSECHKAiPODCHASHIEa_WITH_VERTICAL_STROKEzdVERTKAhVYSHE_ON_LEFTeRIGHTiS_KHOKHLOM_ON_LEFTeRIGHT
  qRYZHEMiTRANNOpRAVNOdZSEKAhSKOBAeOROCHYA_NOZHKAoREDNE_ON_LEFTeRIGHToTRANNO_MALO_POVYSHEuTIKHAYA
  gOCHKAfSATA_ON_LEFTeRIGHTiS_KRYZHEMpUDARKAgVYSOKO_ON_LEFTeRIGHTiS_KHOKHLOM_ON_LEFTeRIGHTqRYZHEM
  qZADERZHKAiELOcVOKkTONAL_RANGE_MARK_MRACHNOhSVETLOgTRESVETLOzlNEUME_CHASHKAfELYUSTKA
  kDEMESTVENNY_KLYUCHqRBITSAhOUBLE_ZAPYATAYApUDAdVA_V_CHELNUmFITAeGOLUBCHIK_BORZYfMRACHNYhSVETLY
  gTIKHYeRESVETLYtKHAMILOgLYUCHfOBYLAfRYUKa_TIKHYiZHeUFISMAhMECHIKa_KLYUCHENEPOSTOYANNYmPOVODNYhVOY
  kPOVODNYoNEMKAfOBLAKOfSOKAa_KLYUCHEVAYA_NEPOSTOYANNAYAoSVETLAYAtRYUKOVAYA_SVETLAYAtSVETLAYA
  iTRESVETLAYArPALKAdRAKLITgUKdEREVODKAa_NEPOSTOYANNAYAxODCHASHIEiLKULIZMYkREVERSED_CHELYUSTKAsOG
  dSKAMEYTSA_DVOECHELNAYA_KLYUCHEVAYAlNEPOSTOYANNAYAoPROSTAYAiSVETLAYAvKLYUCHENEPOSTOYANNAYA
  oVAYA_SVETLAYAiTIKHAYAtMRACHNAYAjSVETLAYAiTIKHAYAgRESVETLAYAuLOZHITIEa_S_KRYZHEMhZAPYATOY
  kZAKRYTOErTATYAa_NEPOSTOYANNAYAoS_DVUMYA_ZAPYATYMIqKRYZHEMa_I_ZAPYATOYsROGOMfZAPYATOYa_I_KRYZHEM
  hPODCHASHIEMyZAKRYTAYAa_S_ZAPYATOYzOPITSAa_S_OCHKOMiWITH_SOROCHYA_NOZHKAzcRELA_DVOECHELNAYA
  a_KLYUCHEVAYApOKRYZHEVAYAkPOVODNAYAa_KLYUCHEVAYAzgGROMNAYAa_WITH_SINGLE_ZAPYATAYAzbOKRYZHEVAYA
  a_POVODNAYAuPOVODNAYAa_WITH_DOUBLE_ZAPYATAYAqSINGLE_ZAPYATAYAzlKLYUCHENEPOSTOYANNAYAoPOVODNAYA
  pRYUKOVAYAa_GROMNAYAa_WITH_SINGLE_ZAPYATAYAzbOKRYZHEVAYAa_POVODNAYAuPOVODNAYA
  a_WITH_DOUBLE_ZAPYATAYAqSINGLE_ZAPYATAYAzlPOVODNAYAjTRYASKApZHEVAYAkMRACHNOTIKHAYAoNEPOSTOYANNAYA
  oPOLUPOVODNAYAlVODNAYAiROSTAYAiTIKHAYA_PUTNAYAoRYASOGLASNAYAiPOVODNAYAjSTRELNAYA
  wVRAKHIYA_KLYUCHEVAYA_MRACHNAYAjPROSTAYAiSVETLAYAiTRESVETLAYAxMRACHNAYAjPROSTAYAiSVETLAYA
  iTRESVETLAYAuZANOZHEKgPYATAYAiMEYTSAnPRIZNAK_MODIFIER_DIRECTION_FLIPoKRYZHfLEVEL-2b3hROGzdOMBIE
  fWJbNBSPdJcSP"

end CodeGauge.Text
