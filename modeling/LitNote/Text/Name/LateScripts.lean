import LitNote.Text.Name.Run

/-!
Names of the Lisu letters to the specials at the end of the basic plane.
-/

namespace LitNote.Text.Name

def lateScripts : List Run :=
  [⟨0xA4D0, ["aLISU LETTER BAcPAcPHAcDAcTAcTHAcGAcKAcKHAcJAcCAcCHAcDZAcTSAcTSHAcMAcNAcLAcSA",
    "cZHAcZAcNGAcHAcXAcHHAcFAcWAcSHAcYAcGHAcAcAEcEcEUcIcOcUcUEcUHcOEcTONE MYA TIdNA POdMYA CYA",
    "eBOeNAeJEUbPUNCTUATION COMMAcFULL STOPaVAI SYLLABLE EEcEENcHEEcWEEcWEENcPEEcBHEEcBEEcMBEE",
    "cKPEEcMGBEEcGBEEcFEEcVEEcTEEcTHEEcDHEEcDHHEEcLEEcREEcDEEcNDEEcSEEcSHEEcZEEcZHEEcCEEcJEE",
    "cNJEEcYEEcKEEcNGGEEcGEEcMEEcNEEcNYEEcIcINcHIcHINcWIcWINcPIcBHIcBIcMBIcKPIcMGBIcGBIcFIcVI",
    "cTIcTHIcDHIcDHHIcLIcRIcDIcNDIcSIcSHIcZIcZHIcCIcJIcNJIcYIcKIcNGGIcGIcMIcNIcNYIcAcANcNGANcHA",
    "cHANcWAcWANcPAcBHAcBAcMBAcKPAcKPANcMGBAcGBAcFAcVAcTAcTHAcDHAcDHHAcLAcRAcDAcNDAcSAcSHAcZA",
    "cZHAcCAcJAcNJAcYAcKAcKANcNGGAcGAcMAcNAcNYAcOOcOONcHOOcWOOcWOONcPOOcBHOOcBOOcMBOOcKPOO",
    "cMGBOOcGBOOcFOOcVOOcTOOcTHOOcDHOOcDHHOOcLOOcROOcDOOcNDOOcSOOcSHOOcZOOcZHOOcCOOcJOOcNJOO",
    "cYOOcKOOcNGGOOcGOOcMOOcNOOcNYOOcUcUNcHUcHUNcWUcWUNcPUcBHUcBUcMBUcKPUcMGBUcGBUcFUcVUcTUcTHU",
    "cDHUcDHHUcLUcRUcDUcNDUcSUcSHUcZUcZHUcCUcJUcNJUcYUcKUcNGGUcGUcMUcNUcNYUcOcONcNGONcHOcHONcWO",
    "cWONcPOcBHOcBOcMBOcKPOcMGBOcGBOcGBONcFOcVOcTOcTHOcDHOcDHHOcLOcROcDOcNDOcSOcSHOcZOcZHOcCO",
    "cJOcNJOcYOcKOcNGGOcGOcMOcNOcNYOcEcENcNGENcHEcHENcWEcWENcPEcBHEcBEcMBEcKPEcKPENcMGBEcGBE",
    "cGBENcFEcVEcTEcTHEcDHEcDHHEcLEcREcDEcNDEcSEcSHEcZEcZHEcCEcJEcNJEcYEcKEcNGGEcNGGENcGEcGEN",
    "cMEcNEcNYEcNGcLENGTHENERbCOMMAbFULL STOPbQUESTION MARKbSYLLABLE NDOLE FAdKAdSOObSYMBOL ",
    "FEENGcKEENGcTINGcNIIcBANGcFAAcTAAcDANGcDOONGcKUNGcTONGcDO-OcJONGbDIGIT ZEROcONEcTWOcTHREE",
    "cFOURcFIVEcSIXcSEVENcEIGHTcNINEbSYLLABLE NDOLE MAdDO"]⟩,
   ⟨0xA640, ["aCYRILLIC CAPITAL LETTER ZEMLYAbSMALL LETTER ZEMLYAbCAPITAL LETTER DZELObSMALL ",
    "LETTER DZELObCAPITAL LETTER REVERSED DZEbSMALL LETTER REVERSED DZEbCAPITAL LETTER IOTA",
    "bSMALL LETTER IOTAbCAPITAL LETTER DJERVbSMALL LETTER DJERVbCAPITAL LETTER MONOGRAPH UK",
    "bSMALL LETTER MONOGRAPH UKbCAPITAL LETTER BROAD OMEGAbSMALL LETTER BROAD OMEGAbCAPITAL ",
    "LETTER NEUTRAL YERbSMALL LETTER NEUTRAL YERbCAPITAL LETTER YERU WITH BACK YERbSMALL ",
    "LETTER YERU WITH BACK YERbCAPITAL LETTER IOTIFIED YATbSMALL LETTER IOTIFIED YATbCAPITAL ",
    "LETTER REVERSED YUbSMALL LETTER REVERSED YUbCAPITAL LETTER IOTIFIED AbSMALL LETTER ",
    "IOTIFIED AbCAPITAL LETTER CLOSED LITTLE YUSbSMALL LETTER CLOSED LITTLE YUSbCAPITAL LETTER ",
    "BLENDED YUSbSMALL LETTER BLENDED YUSbCAPITAL LETTER IOTIFIED CLOSED LITTLE YUSbSMALL ",
    "LETTER IOTIFIED CLOSED LITTLE YUSbCAPITAL LETTER YNbSMALL LETTER YNbCAPITAL LETTER ",
    "REVERSED TSEbSMALL LETTER REVERSED TSEbCAPITAL LETTER SOFT DEbSMALL LETTER SOFT DE",
    "bCAPITAL LETTER SOFT ELbSMALL LETTER SOFT ELbCAPITAL LETTER SOFT EMbSMALL LETTER SOFT EM",
    "bCAPITAL LETTER MONOCULAR ObSMALL LETTER MONOCULAR ObCAPITAL LETTER BINOCULAR ObSMALL ",
    "LETTER BINOCULAR ObCAPITAL LETTER DOUBLE MONOCULAR ObSMALL LETTER DOUBLE MONOCULAR O",
    "bLETTER MULTIOCULAR OaCOMBINING CYRILLIC VZMETcTEN MILLIONS SIGNcHUNDRED MILLIONS SIGN",
    "cTHOUSAND MILLIONS SIGNaSLAVONIC ASTERISKaCOMBINING CYRILLIC LETTER UKRAINIAN IEdIdYIdU",
    "dHARD SIGNdYERUdSOFT SIGNdOMEGAcKAVYKAcPAYEROKaCYRILLIC KAVYKAbPAYEROKbCAPITAL LETTER DWE",
    "bSMALL LETTER DWEbCAPITAL LETTER DZWEbSMALL LETTER DZWEbCAPITAL LETTER ZHWEbSMALL LETTER ",
    "ZHWEbCAPITAL LETTER CCHEbSMALL LETTER CCHEbCAPITAL LETTER DZZEbSMALL LETTER DZZEbCAPITAL ",
    "LETTER TE WITH MIDDLE HOOKbSMALL LETTER TE WITH MIDDLE HOOKbCAPITAL LETTER TWEbSMALL ",
    "LETTER TWEbCAPITAL LETTER TSWEbSMALL LETTER TSWEbCAPITAL LETTER TSSEbSMALL LETTER TSSE",
    "bCAPITAL LETTER TCHEbSMALL LETTER TCHEbCAPITAL LETTER HWEbSMALL LETTER HWEbCAPITAL LETTER ",
    "SHWEbSMALL LETTER SHWEbCAPITAL LETTER DOUBLE ObSMALL LETTER DOUBLE ObCAPITAL LETTER ",
    "CROSSED ObSMALL LETTER CROSSED OaMODIFIER LETTER CYRILLIC HARD SIGNdSOFT SIGNaCOMBINING ",
    "CYRILLIC LETTER EFdIOTIFIED EaBAMUM LETTER AcKAcUcKUcEEcREEcTAEcOcNYIcIcLAcPAcRIIcRIEE",
    "cLEEEEcMEEEEcTAAcNDAAcNJAEMcMcSUUcMUcSHIIcSIcSHEUXcSEUXcKYEEcKETcNUAEcNUcNJUAEcYOQcSHUcYUQ",
    "cYAcNSHAcKEUXcPEUXcNJEEcNTEEcPUEcWUEcPEEcFEEcRUcLUcMIcNIcREUXcRAEcKENcNGKWAENcNGGAcNGAcSHO",
    "cPUAEcFUcFOMcWAcNAcLIcPIcLOQcKOcMBENcRENcMENcMAcTIcKIcMOcMBAAcTETcKPAcTENcNTUUcSAMBA",
    "cFAAMAEcKOVUUcKOGHOMbCOMBINING MARK KOQNDONdTUKWENTISbNJAEMLIbFULL STOPbCOLONbCOMMA",
    "bSEMICOLONbQUESTION MARK"]⟩,
   ⟨0xA700, ["aMODIFIER LETTER CHINESE TONE YIN PINGeYANG PINGeYIN SHANGeYANG SHANGeYIN QU",
    "eYANG QUeYIN RUeYANG RUcEXTRA-HIGH DOTTED TONE BARcHIGH DOTTED TONE BARcMID DOTTED TONE ",
    "BARcLOW DOTTED TONE BARcEXTRA-LOW DOTTED TONE BARcEXTRA-HIGH DOTTED LEFT-STEM TONE BAR",
    "cHIGH DOTTED LEFT-STEM TONE BARcMID DOTTED LEFT-STEM TONE BARcLOW DOTTED LEFT-STEM TONE ",
    "BARcEXTRA-LOW DOTTED LEFT-STEM TONE BARcEXTRA-HIGH LEFT-STEM TONE BARcHIGH LEFT-STEM TONE ",
    "BARcMID LEFT-STEM TONE BARcLOW LEFT-STEM TONE BARcEXTRA-LOW LEFT-STEM TONE BARcDOT ",
    "VERTICAL BARdSLASHdHORIZONTAL BARcLOWER RIGHT CORNER ANGLEcRAISED UP ARROWdDOWN ARROW",
    "dEXCLAMATION MARKdINVERTED EXCLAMATION MARKcLOW INVERTED EXCLAMATION MARKcSTRESS AND HIGH ",
    "TONEeLOW TONEaLATIN CAPITAL LETTER EGYPTOLOGICAL ALEFbSMALL LETTER EGYPTOLOGICAL ALEF",
    "bCAPITAL LETTER EGYPTOLOGICAL AINbSMALL LETTER EGYPTOLOGICAL AINbCAPITAL LETTER HENG",
    "bSMALL LETTER HENGbCAPITAL LETTER TZbSMALL LETTER TZbCAPITAL LETTER TRESILLObSMALL LETTER ",
    "TRESILLObCAPITAL LETTER CUATRILLObSMALL LETTER CUATRILLObCAPITAL LETTER CUATRILLO WITH ",
    "COMMAbSMALL LETTER CUATRILLO WITH COMMAbLETTER SMALL CAPITAL FeSbCAPITAL LETTER AAbSMALL ",
    "LETTER AAbCAPITAL LETTER AObSMALL LETTER AObCAPITAL LETTER AUbSMALL LETTER AUbCAPITAL ",
    "LETTER AVbSMALL LETTER AVbCAPITAL LETTER AV WITH HORIZONTAL BARbSMALL LETTER AV WITH ",
    "HORIZONTAL BARbCAPITAL LETTER AYbSMALL LETTER AYbCAPITAL LETTER REVERSED C WITH DOTbSMALL ",
    "LETTER REVERSED C WITH DOTbCAPITAL LETTER K WITH STROKEbSMALL LETTER K WITH STROKE",
    "bCAPITAL LETTER K WITH DIAGONAL STROKEbSMALL LETTER K WITH DIAGONAL STROKEbCAPITAL LETTER ",
    "K WITH STROKE AND DIAGONAL STROKEbSMALL LETTER K WITH STROKE AND DIAGONAL STROKEbCAPITAL ",
    "LETTER BROKEN LbSMALL LETTER BROKEN LbCAPITAL LETTER L WITH HIGH STROKEbSMALL LETTER L ",
    "WITH HIGH STROKEbCAPITAL LETTER O WITH LONG STROKE OVERLAYbSMALL LETTER O WITH LONG ",
    "STROKE OVERLAYbCAPITAL LETTER O WITH LOOPbSMALL LETTER O WITH LOOPbCAPITAL LETTER OO",
    "bSMALL LETTER OObCAPITAL LETTER P WITH STROKE THROUGH DESCENDERbSMALL LETTER P WITH ",
    "STROKE THROUGH DESCENDERbCAPITAL LETTER P WITH FLOURISHbSMALL LETTER P WITH FLOURISH",
    "bCAPITAL LETTER P WITH SQUIRREL TAILbSMALL LETTER P WITH SQUIRREL TAILbCAPITAL LETTER Q ",
    "WITH STROKE THROUGH DESCENDERbSMALL LETTER Q WITH STROKE THROUGH DESCENDERbCAPITAL LETTER ",
    "Q WITH DIAGONAL STROKEbSMALL LETTER Q WITH DIAGONAL STROKEbCAPITAL LETTER R ROTUNDAbSMALL ",
    "LETTER R ROTUNDAbCAPITAL LETTER RUM ROTUNDAbSMALL LETTER RUM ROTUNDAbCAPITAL LETTER V ",
    "WITH DIAGONAL STROKEbSMALL LETTER V WITH DIAGONAL STROKEbCAPITAL LETTER VYbSMALL LETTER VY",
    "bCAPITAL LETTER VISIGOTHIC ZbSMALL LETTER VISIGOTHIC ZbCAPITAL LETTER THORN WITH STROKE",
    "bSMALL LETTER THORN WITH STROKEbCAPITAL LETTER THORN WITH STROKE THROUGH DESCENDERbSMALL ",
    "LETTER THORN WITH STROKE THROUGH DESCENDERbCAPITAL LETTER VENDbSMALL LETTER VENDbCAPITAL ",
    "LETTER ETbSMALL LETTER ETbCAPITAL LETTER ISbSMALL LETTER ISbCAPITAL LETTER CONbSMALL ",
    "LETTER CONaMODIFIER LETTER USaLATIN SMALL LETTER DUMdLUMdMUMdNUMdRUMbLETTER SMALL CAPITAL ",
    "RUMbSMALL LETTER TUMdUMbCAPITAL LETTER INSULAR DbSMALL LETTER INSULAR DbCAPITAL LETTER ",
    "INSULAR FbSMALL LETTER INSULAR FbCAPITAL LETTER INSULAR GdTURNED INSULAR GbSMALL LETTER ",
    "TURNED INSULAR GbCAPITAL LETTER TURNED LbSMALL LETTER TURNED LbCAPITAL LETTER INSULAR R",
    "bSMALL LETTER INSULAR RbCAPITAL LETTER INSULAR SbSMALL LETTER INSULAR SbCAPITAL LETTER ",
    "INSULAR TbSMALL LETTER INSULAR TaMODIFIER LETTER LOW CIRCUMFLEX ACCENTcCOLONcSHORT EQUALS ",
    "SIGNaLATIN CAPITAL LETTER SALTILLObSMALL LETTER SALTILLObCAPITAL LETTER TURNED HbSMALL ",
    "LETTER L WITH RETROFLEX HOOK AND BELTbLETTER SINOLOGICAL DOTbCAPITAL LETTER N WITH ",
    "DESCENDERbSMALL LETTER N WITH DESCENDERbCAPITAL LETTER C WITH BARbSMALL LETTER C WITH BAR",
    "fPALATAL HOOKdH WITH PALATAL HOOKbCAPITAL LETTER B WITH FLOURISHbSMALL LETTER B WITH ",
    "FLOURISHbCAPITAL LETTER F WITH STROKEbSMALL LETTER F WITH STROKEbCAPITAL LETTER VOLAPUK AE",
    "bSMALL LETTER VOLAPUK AEbCAPITAL LETTER VOLAPUK OEbSMALL LETTER VOLAPUK OEbCAPITAL LETTER ",
    "VOLAPUK UEbSMALL LETTER VOLAPUK UEbCAPITAL LETTER G WITH OBLIQUE STROKEbSMALL LETTER G ",
    "WITH OBLIQUE STROKEbCAPITAL LETTER K WITH OBLIQUE STROKEbSMALL LETTER K WITH OBLIQUE ",
    "STROKEbCAPITAL LETTER N WITH OBLIQUE STROKEbSMALL LETTER N WITH OBLIQUE STROKEbCAPITAL ",
    "LETTER R WITH OBLIQUE STROKEbSMALL LETTER R WITH OBLIQUE STROKEbCAPITAL LETTER S WITH ",
    "OBLIQUE STROKEbSMALL LETTER S WITH OBLIQUE STROKEbCAPITAL LETTER H WITH HOOKdREVERSED ",
    "OPEN EdSCRIPT GdL WITH BELTdSMALL CAPITAL IbLETTER SMALL CAPITAL QbCAPITAL LETTER TURNED K",
    "eTdJ WITH CROSSED-TAILdCHIdBETAbSMALL LETTER BETAbCAPITAL LETTER OMEGAbSMALL LETTER OMEGA",
    "bCAPITAL LETTER U WITH STROKEbSMALL LETTER U WITH STROKEbCAPITAL LETTER GLOTTAL AbSMALL ",
    "LETTER GLOTTAL AbCAPITAL LETTER GLOTTAL IbSMALL LETTER GLOTTAL IbCAPITAL LETTER GLOTTAL U",
    "bSMALL LETTER GLOTTAL UbCAPITAL LETTER OLD POLISH ObSMALL LETTER OLD POLISH ObCAPITAL ",
    "LETTER ANGLICANA WbSMALL LETTER ANGLICANA WbCAPITAL LETTER C WITH PALATAL HOOKdS WITH HOOK",
    "dZ WITH PALATAL HOOKdD WITH SHORT STROKE OVERLAYbSMALL LETTER D WITH SHORT STROKE OVERLAY",
    "bCAPITAL LETTER S WITH SHORT STROKE OVERLAYbSMALL LETTER S WITH SHORT STROKE OVERLAY"]⟩,
   ⟨0xA7D0, ["aLATIN CAPITAL LETTER CLOSED INSULAR GbSMALL LETTER CLOSED INSULAR G"]⟩,
   ⟨0xA7D3, ["aLATIN SMALL LETTER DOUBLE THORN"]⟩,
   ⟨0xA7D5, ["aLATIN SMALL LETTER DOUBLE WYNNbCAPITAL LETTER MIDDLE SCOTS SbSMALL LETTER ",
    "MIDDLE SCOTS SbCAPITAL LETTER SIGMOID SbSMALL LETTER SIGMOID S"]⟩,
   ⟨0xA7F2, ["aMODIFIER LETTER CAPITAL CdFdQaLATIN CAPITAL LETTER REVERSED HALF HbSMALL ",
    "LETTER REVERSED HALF HbEPIGRAPHIC LETTER SIDEWAYS IaMODIFIER LETTER CAPITAL H WITH STROKE",
    "cSMALL LIGATURE OEaLATIN LETTER SMALL CAPITAL TURNED MbEPIGRAPHIC LETTER REVERSED FeP",
    "dINVERTED MdI LONGAdARCHAIC MaSYLOTI NAGRI LETTER AdIcSIGN DVISVARAcLETTER UdEdOcSIGN ",
    "HASANTAcLETTER KOdKHOdGOdGHOcSIGN ANUSVARAcLETTER COdCHOdJOdJHOdTTOdTTHOdDDOdDDHOdTOdTHO",
    "dDOdDHOdNOdPOdPHOdBOdBHOdMOdROdLOdRROdSOdHOcVOWEL SIGN AeIeUeEeOOcPOETRY MARK-1dMARK-2",
    "dMARK-3dMARK-4cSIGN ALTERNATE HASANTA"]⟩,
   ⟨0xA830, ["aNORTH INDIC FRACTION ONE QUARTEReHALFdTHREE QUARTERSdONE SIXTEENTHeEIGHTH",
    "dTHREE SIXTEENTHScQUARTER MARKcPLACEHOLDER MARKcRUPEE MARKcQUANTITY MARK"]⟩,
   ⟨0xA840, ["aPHAGS-PA LETTER KAcKHAcGAcNGAcCAcCHAcJAcNYAcTAcTHAcDAcNAcPAcPHAcBAcMAcTSAcTSHA",
    "cDZAcWAcZHAcZAcSMALL AcYAcRAcLAcSHAcSAcHAcAcIcUcEcOcQAcXAcFAcGGAcEEbSUBJOINED LETTER WAdYA",
    "bLETTER TTAcTTHAcDDAcNNAcALTERNATE YAcVOICELESS SHAcVOICED HAcASPIRATED FAbSUBJOINED ",
    "LETTER RAbSUPERFIXED LETTER RAbLETTER CANDRABINDUbSINGLE HEAD MARKbDOUBLE HEAD MARKbMARK ",
    "SHADcDOUBLE SHAD"]⟩,
   ⟨0xA880, ["aSAURASHTRA SIGN ANUSVARAcVISARGAbLETTER AcAAcIcIIcUcUUcVOCALIC RdRRdLdLLcEcEE",
    "cAIcOcOOcAUcKAcKHAcGAcGHAcNGAcCAcCHAcJAcJHAcNYAcTTAcTTHAcDDAcDDHAcNNAcTAcTHAcDAcDHAcNAcPA",
    "cPHAcBAcBHAcMAcYAcRAcLAcVAcSHAcSSAcSAcHAcLLAbCONSONANT SIGN HAARUbVOWEL SIGN AAdIdIIdUdUU",
    "dVOCALIC ReRReLeLLdEdEEdAIdOdOOdAUbSIGN VIRAMAcCANDRABINDU"]⟩,
   ⟨0xA8CE, ["aSAURASHTRA DANDAbDOUBLE DANDAbDIGIT ZEROcONEcTWOcTHREEcFOURcFIVEcSIXcSEVEN",
    "cEIGHTcNINE"]⟩,
   ⟨0xA8E0, ["aCOMBINING DEVANAGARI DIGIT ZEROdONEdTWOdTHREEdFOURdFIVEdSIXdSEVENdEIGHTdNINE",
    "cLETTER AdUdKAdNAdPAdRAdVIcSIGN AVAGRAHAaDEVANAGARI SIGN SPACING CANDRABINDUcCANDRABINDU ",
    "VIRAMAcDOUBLE CANDRABINDU VIRAMAcCANDRABINDU TWOdTHREEdAVAGRAHAcPUSHPIKAbGAP FILLERbCARET",
    "bHEADSTROKEbSIGN SIDDHAMbJAIN OMbLETTER AYbVOWEL SIGN AYaKAYAH LI DIGIT ZEROdONEdTWOdTHREE",
    "dFOURdFIVEdSIXdSEVENdEIGHTdNINEcLETTER KAdKHAdGAdNGAdSAdSHAdZAdNYAdTAdHTAdNAdPAdPHAdMAdDA",
    "dBAdRAdYAdLAdWAdTHAdHAdVAdCAdAdOEdIdOOcVOWEL UEdEdUdEEdOcTONE PLOPHUdCALYAePLOPHUcSIGN CWI",
    "dSHYAaREJANG LETTER KAcGAcNGAcTAcDAcNAcPAcBAcMAcCAcJAcNYAcSAcRAcLAcYAcWAcHAcMBAcNGGAcNDA",
    "cNYJAcAbVOWEL SIGN IdUdEdAIdOdAUdEUdEAbCONSONANT SIGN NGdNdRdHbVIRAMA"]⟩,
   ⟨0xA95F, ["aREJANG SECTION MARKaHANGUL CHOSEONG TIKEUT-MIEUMcTIKEUT-PIEUPcTIKEUT-SIOS",
    "cTIKEUT-CIEUCcRIEUL-KIYEOKcRIEUL-SSANGKIYEOKcRIEUL-TIKEUTcRIEUL-SSANGTIKEUTcRIEUL-MIEUM",
    "cRIEUL-PIEUPcRIEUL-SSANGPIEUPcRIEUL-KAPYEOUNPIEUPcRIEUL-SIOScRIEUL-CIEUCcRIEUL-KHIEUKH",
    "cMIEUM-KIYEOKcMIEUM-TIKEUTcMIEUM-SIOScPIEUP-SIOS-THIEUTHcPIEUP-KHIEUKHcPIEUP-HIEUH",
    "cSSANGSIOS-PIEUPcIEUNG-RIEULcIEUNG-HIEUHcSSANGCIEUC-HIEUHcSSANGTHIEUTHcPHIEUPH-HIEUH",
    "cHIEUH-SIOScSSANGYEORINHIEUH"]⟩,
   ⟨0xA980, ["aJAVANESE SIGN PANYANGGAcCECAKcLAYARcWIGNYANbLETTER AcI KAWIdcIIcUcPA CEREKcNGA ",
    "LELETeRASWADIcEcAIcOcKAdSASAKdMURDAcGAdMURDAcNGAcCAdMURDAcJAcNYA MURDAcJA MAHAPRANAcNYA",
    "cTTAdMAHAPRANAcDDAdMAHAPRANAcNA MURDAcTAdMURDAcDAdMAHAPRANAcNAcPAdMURDAcBAdMURDAcMAcYAcRA",
    "dAGUNGcLAcWAcSA MURDAdMAHAPRANAdcHAbSIGN CECAK TELUbVOWEL SIGN TARUNGdTOLONGdWULUeMELIK",
    "dSUKUeMENDUTdTALINGdDIRGA MUREdPEPETbCONSONANT SIGN KERETdPENGKALdCAKRAbPANGKONbLEFT ",
    "RERENGGANbRIGHT RERENGGANbPADA ANDAPcMADYAcLUHURcWINDUcPANGKATcLINGSAcLUNGSIcADEGdADEG",
    "cPISELEHbTURNED PADA PISELEH"]⟩,
   ⟨0xA9CF, ["aJAVANESE PANGRANGKEPbDIGIT ZEROcONEcTWOcTHREEcFOURcFIVEcSIXcSEVENcEIGHTcNINE"]⟩,
   ⟨0xA9DE, ["aJAVANESE PADA TIRTA TUMETEScISEN-ISENaMYANMAR LETTER SHAN GHAdCHAdJHAdNNAdBHA",
    "bSIGN SHAN SAWbMODIFIER LETTER SHAN REDUPLICATIONbLETTER TAI LAING NYAeFAeGAeGHAeJAeJHA",
    "eDDAeDDHAeNNAbTAI LAING DIGIT ZEROeONEeTWOeTHREEeFOUReFIVEeSIXeSEVENeEIGHTeNINEbLETTER ",
    "TAI LAING LLAeDAeDHAeBAeBHA"]⟩,
   ⟨0xAA00, ["aCHAM LETTER AcIcUcEcAIcOcKAcKHAcGAcGHAcNGUEcNGAcCHAcCHHAcJAcJHAcNHUEcNHAcNHJA",
    "cTAcTHAcDAcDHAcNUEcNAcDDAcPAcPPAcPHAcBAcBHAcMUEcMAcBBAcYAcRAcLAcVAcSSAcSAcHAbVOWEL SIGN AA",
    "dIdIIdEIdUdOEdOdAIdAUdUEbCONSONANT SIGN YAdRAdLAdWA"]⟩,
   ⟨0xAA40, ["aCHAM LETTER FINAL KdGdNGbCONSONANT SIGN FINAL NGbLETTER FINAL CHdTdNdPdYdRdLdSS",
    "bCONSONANT SIGN FINAL MeH"]⟩,
   ⟨0xAA50, ["aCHAM DIGIT ZEROcONEcTWOcTHREEcFOURcFIVEcSIXcSEVENcEIGHTcNINE"]⟩,
   ⟨0xAA5C, ["aCHAM PUNCTUATION SPIRALcDANDAcDOUBLE DANDAcTRIPLE DANDAaMYANMAR LETTER KHAMTI ",
    "GAdCAdCHAdJAdJHAdNYAdTTAdTTHAdDDAdDDHAdDHAdNAdSAdHAdHHAdFAbMODIFIER LETTER KHAMTI ",
    "REDUPLICATIONbLETTER KHAMTI XAdZAdRAbLOGOGRAM KHAMTI OAYdQNdHMbSYMBOL AITON EXCLAMATION",
    "dONEdTWObLETTER AITON RAbSIGN PAO KAREN TONEcTAI LAING TONE-2eTONE-5bLETTER SHWE PALAUNG ",
    "CHAeSHAaTAI VIET LETTER LOW KOdHIGH KOdLOW KHOdHIGH KHOdLOW KHHOdHIGH KHHOdLOW GOdHIGH GO",
    "dLOW NGOdHIGH NGOdLOW COdHIGH COdLOW CHOdHIGH CHOdLOW SOdHIGH SOdLOW NYOdHIGH NYOdLOW DO",
    "dHIGH DOdLOW TOdHIGH TOdLOW THOdHIGH THOdLOW NOdHIGH NOdLOW BOdHIGH BOdLOW POdHIGH POdLOW ",
    "PHOdHIGH PHOdLOW FOdHIGH FOdLOW MOdHIGH MOdLOW YOdHIGH YOdLOW ROdHIGH ROdLOW LOdHIGH LO",
    "dLOW VOdHIGH VOdLOW HOdHIGH HOdLOW OdHIGH OcMAI KANGcVOWEL AAdIdUEdUdEdOcMAI KHITcVOWEL IA",
    "dUEAdUAdAUEdAYdANdAMcTONE MAI EKeNUENGeTHOeSONG"]⟩,
   ⟨0xAADB, ["aTAI VIET SYMBOL KONdNUENGdSAMdHO HOIdKOI KOIaMEETEI MAYEK LETTER EdOdCHAdNYA",
    "dTTAdTTHAdDDAdDDHAdNNAdSHAdSSAcVOWEL SIGN IIeUUeAAIeAUeAAUcCHEIKHANcAHANG KHUDAMcANJI",
    "cSYLLABLE REPETITION MARKcWORD REPETITION MARKcVOWEL SIGN VISARGAcVIRAMA"]⟩,
   ⟨0xAB01, ["aETHIOPIC SYLLABLE TTHUcTTHIcTTHAAcTTHEEcTTHEcTTHO"]⟩,
   ⟨0xAB09, ["aETHIOPIC SYLLABLE DDHUcDDHIcDDHAAcDDHEEcDDHEcDDHO"]⟩,
   ⟨0xAB11, ["aETHIOPIC SYLLABLE DZUcDZIcDZAAcDZEEcDZEcDZO"]⟩,
   ⟨0xAB20, ["aETHIOPIC SYLLABLE CCHHAcCCHHUcCCHHIcCCHHAAcCCHHEEcCCHHEcCCHHO"]⟩,
   ⟨0xAB28, ["aETHIOPIC SYLLABLE BBAcBBUcBBIcBBAAcBBEEcBBEcBBO"]⟩,
   ⟨0xAB30, ["aLATIN SMALL LETTER BARRED ALPHAdA REVERSED-SCHWAdBLACKLETTER EdBARRED EdE WITH ",
    "FLOURISHdLENIS FdSCRIPT G WITH CROSSED-TAILdL WITH INVERTED LAZY SfDOUBLE MIDDLE TILDE",
    "fMIDDLE RINGdM WITH CROSSED-TAILdN WITH CROSSED-TAILdENG WITH CROSSED-TAILdBLACKLETTER O",
    "fWITH STROKEdOPEN O WITH STROKEdINVERTED OEdTURNED OE WITH STROKEgHORIZONTAL STROKEeO ",
    "OPEN-OgWITH STROKEdSTIRRUP RbLETTER SMALL CAPITAL R WITH RIGHT LEGbSMALL LETTER R WITHOUT ",
    "HANDLEdDOUBLE RdR WITH CROSSED-TAILdDOUBLE R WITH CROSSED-TAILdSCRIPT RfWITH RING",
    "dBASELINE ESHdU WITH SHORT RIGHT LEGeBAR WITH SHORT RIGHT LEGdUIdTURNED UIdU WITH LEFT ",
    "HOOKdCHIeWITH LOW RIGHT RINGgLEFT SERIFdX WITH LOW RIGHT RINGfLONG LEFT LEGiAND LOW RIGHT ",
    "RINGiWITH SERIFdY WITH SHORT RIGHT LEGaMODIFIER BREVE WITH INVERTED BREVEbLETTER SMALL ",
    "HENGdL WITH INVERTED LAZY SfMIDDLE TILDEdU WITH LEFT HOOKaLATIN SMALL LETTER SAKHA YAT",
    "dIOTIFIED EdOPEN OEdUOdINVERTED ALPHAaGREEK LETTER SMALL CAPITAL OMEGAaLATIN SMALL LETTER ",
    "DZ DIGRAPH WITH RETROFLEX HOOKdTS DIGRAPH WITH RETROFLEX HOOKdTURNED R WITH MIDDLE TILDE",
    "aMODIFIER LETTER SMALL TURNED WcLEFT TACKcRIGHT TACK"]⟩,
   ⟨0xAB70, ["aCHEROKEE SMALL LETTER AdEdIdOdUdVdGAdKAdGEdGIdGOdGUdGVdHAdHEdHIdHOdHUdHVdLAdLE",
    "dLIdLOdLUdLVdMAdMEdMIdMOdMUdNAdHNAdNAHdNEdNIdNOdNUdNVdQUAdQUEdQUIdQUOdQUUdQUVdSAdSdSEdSI",
    "dSOdSUdSVdDAdTAdDEdTEdDIdTIdDOdDUdDVdDLAdTLAdTLEdTLIdTLOdTLUdTLVdTSAdTSEdTSIdTSOdTSUdTSV",
    "dWAdWEdWIdWOdWUdWVdYAaMEETEI MAYEK LETTER KOKdSAMdLAIdMITdPAdNAdCHILdTILdKHOUdNGOUdTHOU",
    "dWAIdYANGdHUKdUNdIdPHAMdATIYAdGOKdJHAMdRAIdBAdJILdDILdGHOUdDHOUdBHAMdKOK LONSUMdLAI LONSUM",
    "dMIT LONSUMdPA LONSUMdNA LONSUMdTIL LONSUMdNGOU LONSUMdI LONSUMcVOWEL SIGN ONAPeINAPeANAP",
    "eYENAPeSOUNAPeUNAPeCHEINAPeNUNGcCHEIKHEIcLUM IYEKcAPUN IYEK"]⟩,
   ⟨0xABF0, ["aMEETEI MAYEK DIGIT ZEROdONEdTWOdTHREEdFOURdFIVEdSIXdSEVENdEIGHTdNINE"]⟩,
   ⟨0xD7B0, ["aHANGUL JUNGSEONG O-YEOcO-O-IcYO-AcYO-AEcYO-EOcU-YEOcU-I-IcYU-AEcYU-OcEU-AcEU-EO",
    "cEU-EcEU-OcI-YA-OcI-YAEcI-YEOcI-YEcI-O-IcI-YOcI-YUcI-IcARAEA-AcARAEA-E"]⟩,
   ⟨0xD7CB, ["aHANGUL JONGSEONG NIEUN-RIEULcNIEUN-CHIEUCHcSSANGTIKEUTcSSANGTIKEUT-PIEUP",
    "cTIKEUT-PIEUPcTIKEUT-SIOScTIKEUT-SIOS-KIYEOKcTIKEUT-CIEUCcTIKEUT-CHIEUCHcTIKEUT-THIEUTH",
    "cRIEUL-SSANGKIYEOKcRIEUL-KIYEOK-HIEUHcSSANGRIEUL-KHIEUKHcRIEUL-MIEUM-HIEUH",
    "cRIEUL-PIEUP-TIKEUTcRIEUL-PIEUP-PHIEUPHcRIEUL-YESIEUNGcRIEUL-YEORINHIEUH-HIEUH",
    "cKAPYEOUNRIEULcMIEUM-NIEUNcMIEUM-SSANGNIEUNcSSANGMIEUMcMIEUM-PIEUP-SIOScMIEUM-CIEUC",
    "cPIEUP-TIKEUTcPIEUP-RIEUL-PHIEUPHcPIEUP-MIEUMcSSANGPIEUPcPIEUP-SIOS-TIKEUTcPIEUP-CIEUC",
    "cPIEUP-CHIEUCHcSIOS-MIEUMcSIOS-KAPYEOUNPIEUPcSSANGSIOS-KIYEOKcSSANGSIOS-TIKEUT",
    "cSIOS-PANSIOScSIOS-CIEUCcSIOS-CHIEUCHcSIOS-THIEUTHcSIOS-HIEUHcPANSIOS-PIEUP",
    "cPANSIOS-KAPYEOUNPIEUPcYESIEUNG-MIEUMcYESIEUNG-HIEUHcCIEUC-PIEUPcCIEUC-SSANGPIEUP",
    "cSSANGCIEUCcPHIEUPH-SIOScPHIEUPH-THIEUTH"]⟩,
   ⟨0xFB00, ["aLATIN SMALL LIGATURE FFdFIdFLdFFIdFFLdLONG S TdST"]⟩,
   ⟨0xFB13, ["aARMENIAN SMALL LIGATURE MEN NOWeECHeINIdVEW NOWdMEN XEH"]⟩,
   ⟨0xFB1D, ["aHEBREW LETTER YOD WITH HIRIQbPOINT JUDEO-SPANISH VARIKAbLIGATURE YIDDISH YOD ",
    "YOD PATAHbLETTER ALTERNATIVE AYINcWIDE ALEFdDALETdHEdKAFdLAMEDdFINAL MEMdRESHdTAV",
    "cALTERNATIVE PLUS SIGNcSHIN WITH SHIN DOTeSIN DOTeDAGESH AND SHIN DOTgSIN DOTcALEF WITH ",
    "PATAHeQAMATSeMAPIQcBET WITH DAGESHcGIMEL WITH DAGESHcDALET WITH DAGESHcHE WITH MAPIQcVAV ",
    "WITH DAGESHcZAYIN WITH DAGESH"]⟩,
   ⟨0xFB38, ["aHEBREW LETTER TET WITH DAGESHcYOD WITH DAGESHcFINAL KAF WITH DAGESHcKAF WITH ",
    "DAGESHcLAMED WITH DAGESH"]⟩,
   ⟨0xFB3E, ["aHEBREW LETTER MEM WITH DAGESH"]⟩,
   ⟨0xFB40, ["aHEBREW LETTER NUN WITH DAGESHcSAMEKH WITH DAGESH"]⟩,
   ⟨0xFB43, ["aHEBREW LETTER FINAL PE WITH DAGESHcPE WITH DAGESH"]⟩,
   ⟨0xFB46, ["aHEBREW LETTER TSADI WITH DAGESHcQOF WITH DAGESHcRESH WITH DAGESHcSHIN WITH ",
    "DAGESHcTAV WITH DAGESHcVAV WITH HOLAMcBET WITH RAFEcKAF WITH RAFEcPE WITH RAFEbLIGATURE ",
    "ALEF LAMEDaARABIC LETTER ALEF WASLA ISOLATED FORMeFINAL FORMcBEEH ISOLATED FORMdFINAL FORM",
    "dINITIAL FORMdMEDIAL FORMcPEH ISOLATED FORMdFINAL FORMdINITIAL FORMdMEDIAL FORMcBEHEH ",
    "ISOLATED FORMdFINAL FORMdINITIAL FORMdMEDIAL FORMcTTEHEH ISOLATED FORMdFINAL FORMdINITIAL ",
    "FORMdMEDIAL FORMcTEHEH ISOLATED FORMdFINAL FORMdINITIAL FORMdMEDIAL FORMcTTEH ISOLATED ",
    "FORMdFINAL FORMdINITIAL FORMdMEDIAL FORMcVEH ISOLATED FORMdFINAL FORMdINITIAL FORMdMEDIAL ",
    "FORMcPEHEH ISOLATED FORMdFINAL FORMdINITIAL FORMdMEDIAL FORMcDYEH ISOLATED FORMdFINAL FORM",
    "dINITIAL FORMdMEDIAL FORMcNYEH ISOLATED FORMdFINAL FORMdINITIAL FORMdMEDIAL FORMcTCHEH ",
    "ISOLATED FORMdFINAL FORMdINITIAL FORMdMEDIAL FORMcTCHEHEH ISOLATED FORMdFINAL FORM",
    "dINITIAL FORMdMEDIAL FORMcDDAHAL ISOLATED FORMdFINAL FORMcDAHAL ISOLATED FORMdFINAL FORM",
    "cDUL ISOLATED FORMdFINAL FORMcDDAL ISOLATED FORMdFINAL FORMcJEH ISOLATED FORMdFINAL FORM",
    "cRREH ISOLATED FORMdFINAL FORMcKEHEH ISOLATED FORMdFINAL FORMdINITIAL FORMdMEDIAL FORM",
    "cGAF ISOLATED FORMdFINAL FORMdINITIAL FORMdMEDIAL FORMcGUEH ISOLATED FORMdFINAL FORM",
    "dINITIAL FORMdMEDIAL FORMcNGOEH ISOLATED FORMdFINAL FORMdINITIAL FORMdMEDIAL FORMcNOON ",
    "GHUNNA ISOLATED FORMeFINAL FORMcRNOON ISOLATED FORMdFINAL FORMdINITIAL FORMdMEDIAL FORM",
    "cHEH WITH YEH ABOVE ISOLATED FORMgFINAL FORMdGOAL ISOLATED FORMeFINAL FORMeINITIAL FORM",
    "eMEDIAL FORMdDOACHASHMEE ISOLATED FORMeFINAL FORMeINITIAL FORMeMEDIAL FORMcYEH BARREE ",
    "ISOLATED FORMeFINAL FORMeWITH HAMZA ABOVE ISOLATED FORMhFINAL FORMbSYMBOL DOT ABOVEdBELOW",
    "cTWO DOTS ABOVEeBELOWcTHREE DOTS ABOVEeBELOWePOINTING DOWNWARDS ABOVEgBELOWcFOUR DOTS ",
    "ABOVEeBELOWcDOUBLE VERTICAL BAR BELOWcTWO DOTS VERTICALLY ABOVEfBELOWcRINGcSMALL TAH ABOVE",
    "eBELOWcWASLA ABOVE"]⟩,
   ⟨0xFBD3, ["aARABIC LETTER NG ISOLATED FORMdFINAL FORMdINITIAL FORMdMEDIAL FORMcU ISOLATED ",
    "FORMdFINAL FORMcOE ISOLATED FORMdFINAL FORMcYU ISOLATED FORMdFINAL FORMcU WITH HAMZA ",
    "ABOVE ISOLATED FORMcVE ISOLATED FORMdFINAL FORMcKIRGHIZ OE ISOLATED FORMeFINAL FORMdYU ",
    "ISOLATED FORMeFINAL FORMcE ISOLATED FORMdFINAL FORMdINITIAL FORMdMEDIAL FORMcUIGHUR ",
    "KAZAKH KIRGHIZ ALEF MAKSURA INITIAL FORMhMEDIAL FORMbLIGATURE YEH WITH HAMZA ABOVE WITH ",
    "ALEF ISOLATED FORMiFINAL FORMhAE ISOLATED FORMiFINAL FORMhWAW ISOLATED FORMiFINAL FORMhU ",
    "ISOLATED FORMiFINAL FORMhOE ISOLATED FORMiFINAL FORMhYU ISOLATED FORMiFINAL FORMhE ",
    "ISOLATED FORMiFINAL FORMiINITIAL FORMcUIGHUR KIRGHIZ YEH WITH HAMZA ABOVE WITH ALEF ",
    "MAKSURA ISOLATED FORMlFINAL FORMlINITIAL FORMbLETTER FARSI YEH ISOLATED FORMeFINAL FORM",
    "eINITIAL FORMeMEDIAL FORMbLIGATURE YEH WITH HAMZA ABOVE WITH JEEM ISOLATED FORMhHAH ",
    "ISOLATED FORMhMEEM ISOLATED FORMhALEF MAKSURA ISOLATED FORMhYEH ISOLATED FORMcBEH WITH ",
    "JEEM ISOLATED FORMeHAH ISOLATED FORMeKHAH ISOLATED FORMeMEEM ISOLATED FORMeALEF MAKSURA ",
    "ISOLATED FORMeYEH ISOLATED FORMcTEH WITH JEEM ISOLATED FORMeHAH ISOLATED FORMeKHAH ",
    "ISOLATED FORMeMEEM ISOLATED FORMeALEF MAKSURA ISOLATED FORMeYEH ISOLATED FORMcTHEH WITH ",
    "JEEM ISOLATED FORMeMEEM ISOLATED FORMeALEF MAKSURA ISOLATED FORMeYEH ISOLATED FORMcJEEM ",
    "WITH HAH ISOLATED FORMeMEEM ISOLATED FORMcHAH WITH JEEM ISOLATED FORMeMEEM ISOLATED FORM",
    "cKHAH WITH JEEM ISOLATED FORMeHAH ISOLATED FORMeMEEM ISOLATED FORMcSEEN WITH JEEM ",
    "ISOLATED FORMeHAH ISOLATED FORMeKHAH ISOLATED FORMeMEEM ISOLATED FORMcSAD WITH HAH ",
    "ISOLATED FORMeMEEM ISOLATED FORMcDAD WITH JEEM ISOLATED FORMeHAH ISOLATED FORMeKHAH ",
    "ISOLATED FORMeMEEM ISOLATED FORMcTAH WITH HAH ISOLATED FORMeMEEM ISOLATED FORMcZAH WITH ",
    "MEEM ISOLATED FORMcAIN WITH JEEM ISOLATED FORMeMEEM ISOLATED FORMcGHAIN WITH JEEM ",
    "ISOLATED FORMeMEEM ISOLATED FORMcFEH WITH JEEM ISOLATED FORMeHAH ISOLATED FORMeKHAH ",
    "ISOLATED FORMeMEEM ISOLATED FORMeALEF MAKSURA ISOLATED FORMeYEH ISOLATED FORMcQAF WITH ",
    "HAH ISOLATED FORMeMEEM ISOLATED FORMeALEF MAKSURA ISOLATED FORMeYEH ISOLATED FORMcKAF ",
    "WITH ALEF ISOLATED FORMeJEEM ISOLATED FORMeHAH ISOLATED FORMeKHAH ISOLATED FORMeLAM ",
    "ISOLATED FORMeMEEM ISOLATED FORMeALEF MAKSURA ISOLATED FORMeYEH ISOLATED FORMcLAM WITH ",
    "JEEM ISOLATED FORMeHAH ISOLATED FORMeKHAH ISOLATED FORMeMEEM ISOLATED FORMeALEF MAKSURA ",
    "ISOLATED FORMeYEH ISOLATED FORMcMEEM WITH JEEM ISOLATED FORMeHAH ISOLATED FORMeKHAH ",
    "ISOLATED FORMeMEEM ISOLATED FORMeALEF MAKSURA ISOLATED FORMeYEH ISOLATED FORMcNOON WITH ",
    "JEEM ISOLATED FORMeHAH ISOLATED FORMeKHAH ISOLATED FORMeMEEM ISOLATED FORMeALEF MAKSURA ",
    "ISOLATED FORMeYEH ISOLATED FORMcHEH WITH JEEM ISOLATED FORMeMEEM ISOLATED FORMeALEF ",
    "MAKSURA ISOLATED FORMeYEH ISOLATED FORMcYEH WITH JEEM ISOLATED FORMeHAH ISOLATED FORM",
    "eKHAH ISOLATED FORMeMEEM ISOLATED FORMeALEF MAKSURA ISOLATED FORMeYEH ISOLATED FORMcTHAL ",
    "WITH SUPERSCRIPT ALEF ISOLATED FORMcREH WITH SUPERSCRIPT ALEF ISOLATED FORMcALEF MAKSURA ",
    "WITH SUPERSCRIPT ALEF ISOLATED FORMcSHADDA WITH DAMMATAN ISOLATED FORMeKASRATAN ISOLATED ",
    "FORMeFATHA ISOLATED FORMeDAMMA ISOLATED FORMeKASRA ISOLATED FORMeSUPERSCRIPT ALEF ",
    "ISOLATED FORMcYEH WITH HAMZA ABOVE WITH REH FINAL FORMhZAIN FINAL FORMhMEEM FINAL FORM",
    "hNOON FINAL FORMhALEF MAKSURA FINAL FORMhYEH FINAL FORMcBEH WITH REH FINAL FORMeZAIN ",
    "FINAL FORMeMEEM FINAL FORMeNOON FINAL FORMeALEF MAKSURA FINAL FORMeYEH FINAL FORMcTEH ",
    "WITH REH FINAL FORMeZAIN FINAL FORMeMEEM FINAL FORMeNOON FINAL FORMeALEF MAKSURA FINAL ",
    "FORMeYEH FINAL FORMcTHEH WITH REH FINAL FORMeZAIN FINAL FORMeMEEM FINAL FORMeNOON FINAL ",
    "FORMeALEF MAKSURA FINAL FORMeYEH FINAL FORMcFEH WITH ALEF MAKSURA FINAL FORMeYEH FINAL ",
    "FORMcQAF WITH ALEF MAKSURA FINAL FORMeYEH FINAL FORMcKAF WITH ALEF FINAL FORMeLAM FINAL ",
    "FORMeMEEM FINAL FORMeALEF MAKSURA FINAL FORMeYEH FINAL FORMcLAM WITH MEEM FINAL FORMeALEF ",
    "MAKSURA FINAL FORMeYEH FINAL FORMcMEEM WITH ALEF FINAL FORMeMEEM FINAL FORMcNOON WITH REH ",
    "FINAL FORMeZAIN FINAL FORMeMEEM FINAL FORMeNOON FINAL FORMeALEF MAKSURA FINAL FORMeYEH ",
    "FINAL FORMcALEF MAKSURA WITH SUPERSCRIPT ALEF FINAL FORMcYEH WITH REH FINAL FORMeZAIN ",
    "FINAL FORMeMEEM FINAL FORMeNOON FINAL FORMeALEF MAKSURA FINAL FORMeYEH FINAL FORMeHAMZA ",
    "ABOVE WITH JEEM INITIAL FORMhHAH INITIAL FORMhKHAH INITIAL FORMhMEEM INITIAL FORMhHEH ",
    "INITIAL FORMcBEH WITH JEEM INITIAL FORMeHAH INITIAL FORMeKHAH INITIAL FORMeMEEM INITIAL ",
    "FORMeHEH INITIAL FORMcTEH WITH JEEM INITIAL FORMeHAH INITIAL FORMeKHAH INITIAL FORMeMEEM ",
    "INITIAL FORMeHEH INITIAL FORMcTHEH WITH MEEM INITIAL FORMcJEEM WITH HAH INITIAL FORMeMEEM ",
    "INITIAL FORMcHAH WITH JEEM INITIAL FORMeMEEM INITIAL FORMcKHAH WITH JEEM INITIAL FORM",
    "eMEEM INITIAL FORMcSEEN WITH JEEM INITIAL FORMeHAH INITIAL FORMeKHAH INITIAL FORMeMEEM ",
    "INITIAL FORMcSAD WITH HAH INITIAL FORMeKHAH INITIAL FORMeMEEM INITIAL FORMcDAD WITH JEEM ",
    "INITIAL FORMeHAH INITIAL FORMeKHAH INITIAL FORMeMEEM INITIAL FORMcTAH WITH HAH INITIAL ",
    "FORMcZAH WITH MEEM INITIAL FORMcAIN WITH JEEM INITIAL FORMeMEEM INITIAL FORMcGHAIN WITH ",
    "JEEM INITIAL FORMeMEEM INITIAL FORMcFEH WITH JEEM INITIAL FORMeHAH INITIAL FORMeKHAH ",
    "INITIAL FORMeMEEM INITIAL FORMcQAF WITH HAH INITIAL FORMeMEEM INITIAL FORMcKAF WITH JEEM ",
    "INITIAL FORMeHAH INITIAL FORMeKHAH INITIAL FORMeLAM INITIAL FORMeMEEM INITIAL FORMcLAM ",
    "WITH JEEM INITIAL FORMeHAH INITIAL FORMeKHAH INITIAL FORMeMEEM INITIAL FORMeHEH INITIAL ",
    "FORMcMEEM WITH JEEM INITIAL FORMeHAH INITIAL FORMeKHAH INITIAL FORMeMEEM INITIAL FORM",
    "cNOON WITH JEEM INITIAL FORMeHAH INITIAL FORMeKHAH INITIAL FORMeMEEM INITIAL FORMeHEH ",
    "INITIAL FORMcHEH WITH JEEM INITIAL FORMeMEEM INITIAL FORMeSUPERSCRIPT ALEF INITIAL FORM",
    "cYEH WITH JEEM INITIAL FORMeHAH INITIAL FORMeKHAH INITIAL FORMeMEEM INITIAL FORMeHEH ",
    "INITIAL FORMeHAMZA ABOVE WITH MEEM MEDIAL FORMhHEH MEDIAL FORMcBEH WITH MEEM MEDIAL FORM",
    "eHEH MEDIAL FORMcTEH WITH MEEM MEDIAL FORMeHEH MEDIAL FORMcTHEH WITH MEEM MEDIAL FORMeHEH ",
    "MEDIAL FORMcSEEN WITH MEEM MEDIAL FORMeHEH MEDIAL FORMcSHEEN WITH MEEM MEDIAL FORMeHEH ",
    "MEDIAL FORMcKAF WITH LAM MEDIAL FORMeMEEM MEDIAL FORMcLAM WITH MEEM MEDIAL FORMcNOON WITH ",
    "MEEM MEDIAL FORMeHEH MEDIAL FORMcYEH WITH MEEM MEDIAL FORMeHEH MEDIAL FORMcSHADDA WITH ",
    "FATHA MEDIAL FORMeDAMMA MEDIAL FORMeKASRA MEDIAL FORMcTAH WITH ALEF MAKSURA ISOLATED FORM",
    "eYEH ISOLATED FORMcAIN WITH ALEF MAKSURA ISOLATED FORMeYEH ISOLATED FORMcGHAIN WITH ALEF ",
    "MAKSURA ISOLATED FORMeYEH ISOLATED FORMcSEEN WITH ALEF MAKSURA ISOLATED FORMeYEH ISOLATED ",
    "FORMcSHEEN WITH ALEF MAKSURA ISOLATED FORMeYEH ISOLATED FORMcHAH WITH ALEF MAKSURA ",
    "ISOLATED FORMeYEH ISOLATED FORMcJEEM WITH ALEF MAKSURA ISOLATED FORMeYEH ISOLATED FORM",
    "cKHAH WITH ALEF MAKSURA ISOLATED FORMeYEH ISOLATED FORMcSAD WITH ALEF MAKSURA ISOLATED ",
    "FORMeYEH ISOLATED FORMcDAD WITH ALEF MAKSURA ISOLATED FORMeYEH ISOLATED FORMcSHEEN WITH ",
    "JEEM ISOLATED FORMeHAH ISOLATED FORMeKHAH ISOLATED FORMeMEEM ISOLATED FORMeREH ISOLATED ",
    "FORMcSEEN WITH REH ISOLATED FORMcSAD WITH REH ISOLATED FORMcDAD WITH REH ISOLATED FORM",
    "cTAH WITH ALEF MAKSURA FINAL FORMeYEH FINAL FORMcAIN WITH ALEF MAKSURA FINAL FORMeYEH ",
    "FINAL FORMcGHAIN WITH ALEF MAKSURA FINAL FORMeYEH FINAL FORMcSEEN WITH ALEF MAKSURA FINAL ",
    "FORMeYEH FINAL FORMcSHEEN WITH ALEF MAKSURA FINAL FORMeYEH FINAL FORMcHAH WITH ALEF ",
    "MAKSURA FINAL FORMeYEH FINAL FORMcJEEM WITH ALEF MAKSURA FINAL FORMeYEH FINAL FORMcKHAH ",
    "WITH ALEF MAKSURA FINAL FORMeYEH FINAL FORMcSAD WITH ALEF MAKSURA FINAL FORMeYEH FINAL ",
    "FORMcDAD WITH ALEF MAKSURA FINAL FORMeYEH FINAL FORMcSHEEN WITH JEEM FINAL FORMeHAH FINAL ",
    "FORMeKHAH FINAL FORMeMEEM FINAL FORMeREH FINAL FORMcSEEN WITH REH FINAL FORMcSAD WITH REH ",
    "FINAL FORMcDAD WITH REH FINAL FORMcSHEEN WITH JEEM INITIAL FORMeHAH INITIAL FORMeKHAH ",
    "INITIAL FORMeMEEM INITIAL FORMcSEEN WITH HEH INITIAL FORMcSHEEN WITH HEH INITIAL FORMcTAH ",
    "WITH MEEM INITIAL FORMcSEEN WITH JEEM MEDIAL FORMeHAH MEDIAL FORMeKHAH MEDIAL FORMcSHEEN ",
    "WITH JEEM MEDIAL FORMeHAH MEDIAL FORMeKHAH MEDIAL FORMcTAH WITH MEEM MEDIAL FORMcZAH WITH ",
    "MEEM MEDIAL FORMcALEF WITH FATHATAN FINAL FORMfISOLATED FORMaORNATE LEFT PARENTHESIS",
    "bRIGHT PARENTHESISaARABIC LIGATURE RAHIMAHU ALLAAHcRADI ALLAAHU ANHeANHAAeANHUMeANHUMAA",
    "eANHUNNAcSALLALLAAHU ALAYHI WA-AALIHcALAYHI AS-SALAAMcALAYHIM AS-SALAAMcALAYHIMAA ",
    "AS-SALAAMcALAYHI AS-SALAATU WAS-SALAAMcQUDDISA SIRRAHcSALLALLAHU ALAYHI WAAALIHEE ",
    "WA-SALLAMcALAYHAA AS-SALAAMcTABAARAKA WA-TAAALAAcRAHIMAHUM ALLAAHcTEH WITH JEEM WITH MEEM ",
    "INITIAL FORMeHAH WITH JEEM FINAL FORMhINITIAL FORMgMEEM INITIAL FORMeKHAH WITH MEEM ",
    "INITIAL FORMeMEEM WITH JEEM INITIAL FORMgHAH INITIAL FORMgKHAH INITIAL FORMcJEEM WITH ",
    "MEEM WITH HAH FINAL FORMhINITIAL FORMcHAH WITH MEEM WITH YEH FINAL FORMgALEF MAKSURA ",
    "FINAL FORMcSEEN WITH HAH WITH JEEM INITIAL FORMeJEEM WITH HAH INITIAL FORMgALEF MAKSURA ",
    "FINAL FORMeMEEM WITH HAH FINAL FORMhINITIAL FORMgJEEM INITIAL FORMgMEEM FINAL FORM",
    "hINITIAL FORMcSAD WITH HAH WITH HAH FINAL FORMhINITIAL FORMeMEEM WITH MEEM FINAL FORM",
    "cSHEEN WITH HAH WITH MEEM FINAL FORMhINITIAL FORMeJEEM WITH YEH FINAL FORMeMEEM WITH KHAH ",
    "FINAL FORMhINITIAL FORMgMEEM FINAL FORMhINITIAL FORMcDAD WITH HAH WITH ALEF MAKSURA FINAL ",
    "FORMeKHAH WITH MEEM FINAL FORMhINITIAL FORMcTAH WITH MEEM WITH HAH FINAL FORMhINITIAL FORM",
    "gMEEM INITIAL FORMgYEH FINAL FORMcAIN WITH JEEM WITH MEEM FINAL FORMeMEEM WITH MEEM FINAL ",
    "FORMhINITIAL FORMgALEF MAKSURA FINAL FORMcGHAIN WITH MEEM WITH MEEM FINAL FORMgYEH FINAL ",
    "FORMgALEF MAKSURA FINAL FORMcFEH WITH KHAH WITH MEEM FINAL FORMhINITIAL FORMcQAF WITH ",
    "MEEM WITH HAH FINAL FORMgMEEM FINAL FORMcLAM WITH HAH WITH MEEM FINAL FORMgYEH FINAL FORM",
    "gALEF MAKSURA FINAL FORMeJEEM WITH JEEM INITIAL FORMhFINAL FORMeKHAH WITH MEEM FINAL FORM",
    "hINITIAL FORMeMEEM WITH HAH FINAL FORMhINITIAL FORMcMEEM WITH HAH WITH JEEM INITIAL FORM",
    "gMEEM INITIAL FORMgYEH FINAL FORMeJEEM WITH HAH INITIAL FORMgMEEM INITIAL FORMeKHAH WITH ",
    "JEEM INITIAL FORMgMEEM INITIAL FORM"]⟩,
   ⟨0xFD92, ["aARABIC LIGATURE MEEM WITH JEEM WITH KHAH INITIAL FORMcHEH WITH MEEM WITH JEEM ",
    "INITIAL FORMgMEEM INITIAL FORMcNOON WITH HAH WITH MEEM INITIAL FORMgALEF MAKSURA FINAL ",
    "FORMeJEEM WITH MEEM FINAL FORMhINITIAL FORMgALEF MAKSURA FINAL FORMeMEEM WITH YEH FINAL ",
    "FORMgALEF MAKSURA FINAL FORMcYEH WITH MEEM WITH MEEM FINAL FORMhINITIAL FORMcBEH WITH ",
    "KHAH WITH YEH FINAL FORMcTEH WITH JEEM WITH YEH FINAL FORMgALEF MAKSURA FINAL FORMeKHAH ",
    "WITH YEH FINAL FORMgALEF MAKSURA FINAL FORMeMEEM WITH YEH FINAL FORMgALEF MAKSURA FINAL ",
    "FORMcJEEM WITH MEEM WITH YEH FINAL FORMeHAH WITH ALEF MAKSURA FINAL FORMeMEEM WITH ALEF ",
    "MAKSURA FINAL FORMcSEEN WITH KHAH WITH ALEF MAKSURA FINAL FORMcSAD WITH HAH WITH YEH ",
    "FINAL FORMcSHEEN WITH HAH WITH YEH FINAL FORMcDAD WITH HAH WITH YEH FINAL FORMcLAM WITH ",
    "JEEM WITH YEH FINAL FORMeMEEM WITH YEH FINAL FORMcYEH WITH HAH WITH YEH FINAL FORMeJEEM ",
    "WITH YEH FINAL FORMeMEEM WITH YEH FINAL FORMcMEEM WITH MEEM WITH YEH FINAL FORMcQAF WITH ",
    "MEEM WITH YEH FINAL FORMcNOON WITH HAH WITH YEH FINAL FORMcQAF WITH MEEM WITH HAH INITIAL ",
    "FORMcLAM WITH HAH WITH MEEM INITIAL FORMcAIN WITH MEEM WITH YEH FINAL FORMcKAF WITH MEEM ",
    "WITH YEH FINAL FORMcNOON WITH JEEM WITH HAH INITIAL FORMcMEEM WITH KHAH WITH YEH FINAL ",
    "FORMcLAM WITH JEEM WITH MEEM INITIAL FORMcKAF WITH MEEM WITH MEEM FINAL FORMcLAM WITH ",
    "JEEM WITH MEEM FINAL FORMcNOON WITH JEEM WITH HAH FINAL FORMcJEEM WITH HAH WITH YEH FINAL ",
    "FORMcHAH WITH JEEM WITH YEH FINAL FORMcMEEM WITH JEEM WITH YEH FINAL FORMcFEH WITH MEEM ",
    "WITH YEH FINAL FORMcBEH WITH HAH WITH YEH FINAL FORMcKAF WITH MEEM WITH MEEM INITIAL FORM",
    "cAIN WITH JEEM WITH MEEM INITIAL FORMcSAD WITH MEEM WITH MEEM INITIAL FORMcSEEN WITH KHAH ",
    "WITH YEH FINAL FORMcNOON WITH JEEM WITH YEH FINAL FORM"]⟩,
   ⟨0xFDCF, ["aARABIC LIGATURE SALAAMUHU ALAYNAA"]⟩,
   ⟨0xFDF0, ["aARABIC LIGATURE SALLA USED AS KORANIC STOP SIGN ISOLATED FORMcQALA USED AS ",
    "KORANIC STOP SIGN ISOLATED FORMcALLAH ISOLATED FORMcAKBAR ISOLATED FORMcMOHAMMAD ISOLATED ",
    "FORMcSALAM ISOLATED FORMcRASOUL ISOLATED FORMcALAYHE ISOLATED FORMcWASALLAM ISOLATED FORM",
    "cSALLA ISOLATED FORMcSALLALLAHOU ALAYHE WASALLAMcJALLAJALALOUHOUaRIAL SIGNaARABIC ",
    "LIGATURE BISMILLAH AR-RAHMAN AR-RAHEEMcSUBHAANAHU WA TAAALAAcAZZA WA JALLaVARIATION ",
    "SELECTOR-1bSELECTOR-2bSELECTOR-3bSELECTOR-4bSELECTOR-5bSELECTOR-6bSELECTOR-7bSELECTOR-8",
    "bSELECTOR-9bSELECTOR-10bSELECTOR-11bSELECTOR-12bSELECTOR-13bSELECTOR-14bSELECTOR-15",
    "bSELECTOR-16aPRESENTATION FORM FOR VERTICAL COMMAeIDEOGRAPHIC COMMAfFULL STOPeCOLON",
    "eSEMICOLONeEXCLAMATION MARKeQUESTION MARKeLEFT WHITE LENTICULAR BRACKETeRIGHT WHITE ",
    "LENTICULAR BRAKCETeHORIZONTAL ELLIPSIS"]⟩,
   ⟨0xFE20, ["aCOMBINING LIGATURE LEFT HALFcRIGHT HALFbDOUBLE TILDE LEFT HALFdRIGHT HALF",
    "bMACRON LEFT HALFcRIGHT HALFbCONJOINING MACRONbLIGATURE LEFT HALF BELOWcRIGHT HALF BELOW",
    "bTILDE LEFT HALF BELOWcRIGHT HALF BELOWbMACRON LEFT HALF BELOWcRIGHT HALF BELOW",
    "bCONJOINING MACRON BELOWbCYRILLIC TITLO LEFT HALFdRIGHT HALFaPRESENTATION FORM FOR ",
    "VERTICAL TWO DOT LEADEReEM DASHeEN DASHeLOW LINEeWAVY LOW LINEeLEFT PARENTHESISeRIGHT ",
    "PARENTHESISeLEFT CURLY BRACKETeRIGHT CURLY BRACKETeLEFT TORTOISE SHELL BRACKETeRIGHT ",
    "TORTOISE SHELL BRACKETeLEFT BLACK LENTICULAR BRACKETeRIGHT BLACK LENTICULAR BRACKETeLEFT ",
    "DOUBLE ANGLE BRACKETeRIGHT DOUBLE ANGLE BRACKETeLEFT ANGLE BRACKETeRIGHT ANGLE BRACKET",
    "eLEFT CORNER BRACKETeRIGHT CORNER BRACKETeLEFT WHITE CORNER BRACKETeRIGHT WHITE CORNER ",
    "BRACKETaSESAME DOTaWHITE SESAME DOTaPRESENTATION FORM FOR VERTICAL LEFT SQUARE BRACKET",
    "eRIGHT SQUARE BRACKETaDASHED OVERLINEaCENTRELINE OVERLINEaWAVY OVERLINEaDOUBLE WAVY ",
    "OVERLINEaDASHED LOW LINEaCENTRELINE LOW LINEaWAVY LOW LINEaSMALL COMMAbIDEOGRAPHIC COMMA",
    "bFULL STOP"]⟩,
   ⟨0xFE54, ["aSMALL SEMICOLONbCOLONbQUESTION MARKbEXCLAMATION MARKbEM DASHbLEFT PARENTHESIS",
    "bRIGHT PARENTHESISbLEFT CURLY BRACKETbRIGHT CURLY BRACKETbLEFT TORTOISE SHELL BRACKET",
    "bRIGHT TORTOISE SHELL BRACKETbNUMBER SIGNbAMPERSANDbASTERISKbPLUS SIGNbHYPHEN-MINUS",
    "bLESS-THAN SIGNbGREATER-THAN SIGNbEQUALS SIGN"]⟩,
   ⟨0xFE68, ["aSMALL REVERSE SOLIDUSbDOLLAR SIGNbPERCENT SIGNbCOMMERCIAL AT"]⟩,
   ⟨0xFE70, ["aARABIC FATHATAN ISOLATED FORMbTATWEEL WITH FATHATAN ABOVEbDAMMATAN ISOLATED ",
    "FORMbTAIL FRAGMENTbKASRATAN ISOLATED FORM"]⟩,
   ⟨0xFE76, ["aARABIC FATHA ISOLATED FORMcMEDIAL FORMbDAMMA ISOLATED FORMcMEDIAL FORMbKASRA ",
    "ISOLATED FORMcMEDIAL FORMbSHADDA ISOLATED FORMcMEDIAL FORMbSUKUN ISOLATED FORMcMEDIAL FORM",
    "bLETTER HAMZA ISOLATED FORMcALEF WITH MADDA ABOVE ISOLATED FORMgFINAL FORMeHAMZA ABOVE ",
    "ISOLATED FORMgFINAL FORMcWAW WITH HAMZA ABOVE ISOLATED FORMgFINAL FORMcALEF WITH HAMZA ",
    "BELOW ISOLATED FORMgFINAL FORMcYEH WITH HAMZA ABOVE ISOLATED FORMgFINAL FORMgINITIAL FORM",
    "gMEDIAL FORMcALEF ISOLATED FORMdFINAL FORMcBEH ISOLATED FORMdFINAL FORMdINITIAL FORM",
    "dMEDIAL FORMcTEH MARBUTA ISOLATED FORMeFINAL FORMdISOLATED FORMdFINAL FORMdINITIAL FORM",
    "dMEDIAL FORMcTHEH ISOLATED FORMdFINAL FORMdINITIAL FORMdMEDIAL FORMcJEEM ISOLATED FORM",
    "dFINAL FORMdINITIAL FORMdMEDIAL FORMcHAH ISOLATED FORMdFINAL FORMdINITIAL FORMdMEDIAL FORM",
    "cKHAH ISOLATED FORMdFINAL FORMdINITIAL FORMdMEDIAL FORMcDAL ISOLATED FORMdFINAL FORMcTHAL ",
    "ISOLATED FORMdFINAL FORMcREH ISOLATED FORMdFINAL FORMcZAIN ISOLATED FORMdFINAL FORMcSEEN ",
    "ISOLATED FORMdFINAL FORMdINITIAL FORMdMEDIAL FORMcSHEEN ISOLATED FORMdFINAL FORMdINITIAL ",
    "FORMdMEDIAL FORMcSAD ISOLATED FORMdFINAL FORMdINITIAL FORMdMEDIAL FORMcDAD ISOLATED FORM",
    "dFINAL FORMdINITIAL FORMdMEDIAL FORMcTAH ISOLATED FORMdFINAL FORMdINITIAL FORMdMEDIAL FORM",
    "cZAH ISOLATED FORMdFINAL FORMdINITIAL FORMdMEDIAL FORMcAIN ISOLATED FORMdFINAL FORM",
    "dINITIAL FORMdMEDIAL FORMcGHAIN ISOLATED FORMdFINAL FORMdINITIAL FORMdMEDIAL FORMcFEH ",
    "ISOLATED FORMdFINAL FORMdINITIAL FORMdMEDIAL FORMcQAF ISOLATED FORMdFINAL FORMdINITIAL ",
    "FORMdMEDIAL FORMcKAF ISOLATED FORMdFINAL FORMdINITIAL FORMdMEDIAL FORMcLAM ISOLATED FORM",
    "dFINAL FORMdINITIAL FORMdMEDIAL FORMcMEEM ISOLATED FORMdFINAL FORMdINITIAL FORMdMEDIAL ",
    "FORMcNOON ISOLATED FORMdFINAL FORMdINITIAL FORMdMEDIAL FORMcHEH ISOLATED FORMdFINAL FORM",
    "dINITIAL FORMdMEDIAL FORMcWAW ISOLATED FORMdFINAL FORMcALEF MAKSURA ISOLATED FORMeFINAL ",
    "FORMcYEH ISOLATED FORMdFINAL FORMdINITIAL FORMdMEDIAL FORMbLIGATURE LAM WITH ALEF WITH ",
    "MADDA ABOVE ISOLATED FORMiFINAL FORMgHAMZA ABOVE ISOLATED FORMiFINAL FORMhBELOW ISOLATED ",
    "FORMiFINAL FORMfISOLATED FORMfFINAL FORM"]⟩,
   ⟨0xFEFF, ["aZERO WIDTH NO-BREAK SPACE"]⟩,
   ⟨0xFF01, ["aFULLWIDTH EXCLAMATION MARKbQUOTATION MARKbNUMBER SIGNbDOLLAR SIGNbPERCENT SIGN",
    "bAMPERSANDbAPOSTROPHEbLEFT PARENTHESISbRIGHT PARENTHESISbASTERISKbPLUS SIGNbCOMMA",
    "bHYPHEN-MINUSbFULL STOPbSOLIDUSbDIGIT ZEROcONEcTWOcTHREEcFOURcFIVEcSIXcSEVENcEIGHTcNINE",
    "bCOLONbSEMICOLONbLESS-THAN SIGNbEQUALS SIGNbGREATER-THAN SIGNbQUESTION MARKbCOMMERCIAL AT",
    "bLATIN CAPITAL LETTER AeBeCeDeEeFeGeHeIeJeKeLeMeNeOePeQeReSeTeUeVeWeXeYeZbLEFT SQUARE ",
    "BRACKETbREVERSE SOLIDUSbRIGHT SQUARE BRACKETbCIRCUMFLEX ACCENTbLOW LINEbGRAVE ACCENT",
    "bLATIN SMALL LETTER AeBeCeDeEeFeGeHeIeJeKeLeMeNeOePeQeReSeTeUeVeWeXeYeZbLEFT CURLY BRACKET",
    "bVERTICAL LINEbRIGHT CURLY BRACKETbTILDEbLEFT WHITE PARENTHESISbRIGHT WHITE PARENTHESIS",
    "aHALFWIDTH IDEOGRAPHIC FULL STOPbLEFT CORNER BRACKETbRIGHT CORNER BRACKETbIDEOGRAPHIC ",
    "COMMAbKATAKANA MIDDLE DOTcLETTER WOdSMALL AeIeUeEeOeYAeYUeYOeTUbKATAKANA-HIRAGANA ",
    "PROLONGED SOUND MARKbKATAKANA LETTER AdIdUdEdOdKAdKIdKUdKEdKOdSAdSIdSUdSEdSOdTAdTIdTUdTE",
    "dTOdNAdNIdNUdNEdNOdHAdHIdHUdHEdHOdMAdMIdMUdMEdMOdYAdYUdYOdRAdRIdRUdREdROdWAdNcVOICED ",
    "SOUND MARKcSEMI-VOICED SOUND MARKbHANGUL FILLERcLETTER KIYEOKdSSANGKIYEOKdKIYEOK-SIOS",
    "dNIEUNdNIEUN-CIEUCdNIEUN-HIEUHdTIKEUTdSSANGTIKEUTdRIEULdRIEUL-KIYEOKdRIEUL-MIEUM",
    "dRIEUL-PIEUPdRIEUL-SIOSdRIEUL-THIEUTHdRIEUL-PHIEUPHdRIEUL-HIEUHdMIEUMdPIEUPdSSANGPIEUP",
    "dPIEUP-SIOSdSIOSdSSANGSIOSdIEUNGdCIEUCdSSANGCIEUCdCHIEUCHdKHIEUKHdTHIEUTHdPHIEUPHdHIEUH"]⟩,
   ⟨0xFFC2, ["aHALFWIDTH HANGUL LETTER AdAEdYAdYAEdEOdE"]⟩,
   ⟨0xFFCA, ["aHALFWIDTH HANGUL LETTER YEOdYEdOdWAdWAEdOE"]⟩,
   ⟨0xFFD2, ["aHALFWIDTH HANGUL LETTER YOdUdWEOdWEdWIdYU"]⟩,
   ⟨0xFFDA, ["aHALFWIDTH HANGUL LETTER EUdYIdI"]⟩,
   ⟨0xFFE0, ["aFULLWIDTH CENT SIGNbPOUND SIGNbNOT SIGNbMACRONbBROKEN BARbYEN SIGNbWON SIGN"]⟩,
   ⟨0xFFE8, ["aHALFWIDTH FORMS LIGHT VERTICALbLEFTWARDS ARROWbUPWARDS ARROWbRIGHTWARDS ARROW",
    "bDOWNWARDS ARROWbBLACK SQUAREbWHITE CIRCLE"]⟩,
   ⟨0xFFF9, ["aINTERLINEAR ANNOTATION ANCHORcSEPARATORcTERMINATORaOBJECT REPLACEMENT CHARACTER",
    "aREPLACEMENT CHARACTER"]⟩]

end LitNote.Text.Name
